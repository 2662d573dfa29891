import HostAccess.Number.Binary64

/-!
# The shortest decimal that reads back

A number is written with the fewest decimal digits that single it out: the decimal lies closer to it
than to any other number, where an end of that interval counts if the significand is even. Of two
decimals with that many digits the nearer one is taken.
-/
namespace HostAccess.Binary64

def digitCount (n : Nat) : Nat := if n = 0 then 0 else (Nat.toDigits 10 n).length

def leading (num den : Nat) : Int :=
  if den ≤ num then (digitCount (num / den) : Int) - 1
  else -(digitCount ((den - 1) / num) : Int)

/-- Four times the magnitude and the distances down to and up to the ends of the interval of values
that read as this number, over one denominator. -/
structure Interval where
  value : Nat
  below : Nat
  above : Nat
  den : Nat
  closed : Bool

/-- The interval of a number: half the distance to either neighbour. The lower neighbour of a power
of two is only half as far away. -/
def interval (x : Binary64) : Interval :=
  let unit := twoTo x.exponent.toNat
  let below := if x.significand = twoTo 52 && x.exponent > -1074 then unit else 2 * unit
  ⟨4 * x.significand * unit, below, 2 * unit, 4 * twoTo (-x.exponent).toNat, x.significand % 2 == 0⟩

/-- Whether `m · 10 ^ k` reads as the number, and its distance from it over a common denominator. -/
def Interval.distance? (i : Interval) (m : Nat) (k : Int) : Option Nat :=
  let grid := m * tenTo k.toNat * i.den
  let scale := tenTo (-k).toNat
  let value := i.value * scale
  let (gap, room) :=
    if grid ≤ value then (value - grid, i.below * scale) else (grid - value, i.above * scale)
  if gap < room || (i.closed && gap == room) then some gap else none

/-- The decimal on the grid of `10 ^ k` that reads as the number and is nearest to it, if any. -/
def Interval.onGrid? (i : Interval) (k : Int) : Option Nat :=
  let m := i.value * tenTo (-k).toNat / (i.den * tenTo k.toNat)
  match i.distance? m k, i.distance? (m + 1) k with
  | some a, some b => some (if b < a || (a == b && m % 2 == 1) then m + 1 else m)
  | some _, none => some m
  | none, some _ => some (m + 1)
  | none, none => none

def Interval.search (i : Interval) : Nat → Int → Nat × Int
  | 0, k => (i.value * tenTo (-k).toNat / (i.den * tenTo k.toNat), k)
  | more + 1, k =>
    match i.onGrid? k with
    | some m => (m, k)
    | none => i.search more (k - 1)

/-- The integer and the power of ten of the shortest decimal of a number that is not zero. -/
def shortest (x : Binary64) : Nat × Int :=
  let i := x.interval
  i.search 17 (leading i.value i.den)

/-- The digits without the zeros at their end, and how many those were. -/
def stripZeros (digits : List Char) : List Char × Nat :=
  let kept := (digits.reverse.dropWhile (· == '0')).reverse
  (kept, digits.length - kept.length)

def digits (x : Binary64) : List Char × Int :=
  if x.isZero then (['0'], 0)
  else
    let (m, k) := x.shortest
    let all := Nat.toDigits 10 m
    ((stripZeros all).1, k + all.length - 1)

/-- Numbers from `10 ^ -5` up to below `10 ^ 16` are written in positions, always with a point and a
digit after it; all others with a signed exponent. -/
def render (x : Binary64) : String :=
  let (ds, e) := x.digits
  let sign := if x.negative then "-" else ""
  let zeros (n : Int) : List Char := List.replicate n.toNat '0'
  let body : List Char :=
    if -5 ≤ e ∧ e < 0 then ['0', '.'] ++ zeros (-e - 1) ++ ds
    else if 0 ≤ e ∧ e < 16 then
      let whole := ds.take (e + 1).toNat ++ zeros (e + 1 - ds.length)
      let part := ds.drop (e + 1).toNat
      whole ++ '.' :: (if part.isEmpty then ['0'] else part)
    else
      let mark := if e < 0 then ['e', '-'] else ['e', '+']
      let tail := if ds.length ≤ 1 then [] else '.' :: ds.drop 1
      ds.take 1 ++ tail ++ mark ++ Nat.toDigits 10 e.natAbs
  sign ++ String.ofList body

end HostAccess.Binary64
