/-!
# Finite binary floating-point numbers

A number is a sign and an integer multiple of a power of two: at most 53 binary digits over an
exponent of at least -1074. Arithmetic is exact on fractions and rounded once at the end, to the
nearest number, of two equally near ones to the one with an even digit last. A result that would be
too large is no number.
-/
namespace HostAccess

/-- The number `± significand · 2 ^ exponent`. -/
structure Binary64 where
  negative : Bool
  significand : Nat
  exponent : Int
  deriving DecidableEq, Repr

namespace Binary64

def twoTo (n : Nat) : Nat := Nat.pow 2 n

def tenTo (n : Nat) : Nat := Nat.pow 10 n

/-- The positive power of two, as a factor of the numerator or of the denominator. -/
def scaled (num den : Nat) (e : Int) : Nat × Nat :=
  (num * twoTo (-e).toNat, den * twoTo e.toNat)

/-- The quotient `num / den` rounded to an integer, a half to the even neighbour. -/
def roundHalfEven (num den : Nat) : Nat :=
  let q := num / den
  let r := num % den
  if 2 * r > den || (2 * r == den && q % 2 == 1) then q + 1 else q

/-- The exponent at which `num / den` has 53 binary digits, but never less than -1074. -/
def exponentOf (num den : Nat) : Int :=
  let e : Int := (num.log2 : Int) - den.log2 - 52
  let (n, d) := scaled num den e
  max (if n / d < twoTo 52 then e - 1 else e) (-1074)

/-- The number nearest to `± num / den`, unless it is too large. -/
def round? (negative : Bool) (num den : Nat) : Option Binary64 :=
  if num = 0 then some ⟨negative, 0, -1074⟩
  else
    let e := exponentOf num den
    let (n, d) := scaled num den e
    let q := roundHalfEven n d
    let (q, e) := if q = twoTo 53 then (twoTo 52, e + 1) else (q, e)
    if e > 971 then none else some ⟨negative, q, e⟩

def fraction (x : Binary64) : Nat × Nat :=
  (x.significand * twoTo x.exponent.toNat, twoTo (-x.exponent).toNat)

def isZero (x : Binary64) : Bool := x.significand == 0

def timesTen (x : Binary64) (p : Nat) : Option Binary64 := do
  let ten ← round? false (tenTo p) 1
  let (a, b) := x.fraction
  let (c, d) := ten.fraction
  round? x.negative (a * c) (b * d)

def overTen (x : Binary64) (p : Nat) : Option Binary64 := do
  let ten ← round? false (tenTo p) 1
  let (a, b) := x.fraction
  let (c, d) := ten.fraction
  round? x.negative (a * d) (b * c)

def largestTen : Nat := 308

/-- The quotient `x / 10 ^ p`: `x` is divided by the largest power of ten as often as needed, which
`rounds` bounds. -/
def scaleDown (x : Binary64) (p : Nat) : Nat → Option Binary64
  | 0 => none
  | rounds + 1 =>
    if p ≤ largestTen then x.overTen p
    else if x.isZero then some x
    else (x.overTen largestTen).bind fun y => y.scaleDown (p - largestTen) rounds

/-- The number that is read for `significand · 10 ^ exponent`: the integer is rounded first and then
multiplied or divided, so the result can differ from the nearest number in its last digit. -/
def ofDecimal (negative : Bool) (significand : Nat) (exponent : Int) : Option Binary64 := do
  let x ← round? false significand 1
  let y ←
    if exponent < 0 then x.scaleDown exponent.natAbs (exponent.natAbs / largestTen + 1)
    else if exponent ≤ largestTen then x.timesTen exponent.toNat
    else if x.isZero then some x
    else none
  some { y with negative }

end Binary64

end HostAccess
