import HostAccess.Json.Basic
import HostAccess.Text.Utf8

/-!
# The words of JSON

Blanks, names, numbers and texts, read from the front of a byte string. Each reader gives what it
read and the rest. A text is read in one of two ways: decoded, which refuses lone surrogates and
bytes that are not UTF-8, or only passed over, which refuses neither.
-/
namespace HostAccess.Json

/-- Blanks between words are the space, the tab and the two line ends, and no others. -/
def isBlank (b : UInt8) : Bool := b == 0x20 || b == 0x09 || b == 0x0A || b == 0x0D

def skipBlanks (input : Bytes) : Bytes := input.dropWhile isBlank

def expect (word : Bytes) (input : Bytes) : Option Bytes :=
  if word.isPrefixOf input then some (input.drop word.length) else none

def isDigit (b : UInt8) : Bool := 0x30 ≤ b && b ≤ 0x39

def digitValue (b : UInt8) : Nat := b.toNat - 0x30

def hexValue? (b : UInt8) : Option Nat :=
  if isDigit b then some (digitValue b)
  else if 0x41 ≤ b && b ≤ 0x46 then some (b.toNat - 0x41 + 10)
  else if 0x61 ≤ b && b ≤ 0x66 then some (b.toNat - 0x61 + 10)
  else none

def hexFour? (a b c d : UInt8) : Option Nat := do
  return (((← hexValue? a) * 16 + (← hexValue? b)) * 16 + (← hexValue? c)) * 16 + (← hexValue? d)

def shortEscape? (b : UInt8) : Option UInt8 :=
  if b = 0x22 || b = 0x5C || b = 0x2F then some b
  else if b = 0x62 then some 0x08
  else if b = 0x66 then some 0x0C
  else if b = 0x6E then some 0x0A
  else if b = 0x72 then some 0x0D
  else if b = 0x74 then some 0x09
  else none

def isHigh (unit : Nat) : Bool := 0xD800 ≤ unit && unit ≤ 0xDBFF

def isLow (unit : Nat) : Bool := 0xDC00 ≤ unit && unit ≤ 0xDFFF

def pair (high low : Nat) : Bytes :=
  String.utf8EncodeChar (Char.ofNat (0x10000 + (high - 0xD800) * 0x400 + (low - 0xDC00)))

/-- A piece of a text: a byte that stands for itself, or a code unit given by number. -/
inductive Piece where
  | byte (b : UInt8)
  | unit (n : Nat)
  deriving DecidableEq, Repr

def pieces : Bytes → Option (List Piece × Bytes)
  | [] => none
  | 0x22 :: rest => some ([], rest)
  | 0x5C :: 0x75 :: a :: b :: c :: d :: rest => do
    let unit ← hexFour? a b c d
    let (more, rest) ← pieces rest
    some (.unit unit :: more, rest)
  | 0x5C :: e :: rest => do
    let byte ← shortEscape? e
    let (more, rest) ← pieces rest
    some (.byte byte :: more, rest)
  | b :: rest =>
    if b < 0x20 || b = 0x5C then none
    else (pieces rest).map fun (more, rest) => (.byte b :: more, rest)

/-- The bytes of the pieces. A surrogate counts only as half of a pair. -/
def assemble : List Piece → Option Bytes
  | [] => some []
  | .byte b :: rest => (assemble rest).map (b :: ·)
  | .unit high :: .unit low :: rest =>
    if isLow high then none
    else if isHigh high then
      if isLow low then (assemble rest).map (pair high low ++ ·) else none
    else (assemble (.unit low :: rest)).map (String.utf8EncodeChar (Char.ofNat high) ++ ·)
  | .unit n :: rest =>
    if isLow n || isHigh n then none
    else (assemble rest).map (String.utf8EncodeChar (Char.ofNat n) ++ ·)

def readText (input : Bytes) : Option (String × Bytes) := do
  let (pieces, rest) ← pieces input
  return (← Utf8.decode? (← assemble pieces), rest)

/-- Passes over a text after its opening quote: only its form is looked at. -/
def skipText (input : Bytes) : Option Bytes := (pieces input).map (·.2)

/-- The largest integer that is kept as one. -/
def largestNatural : Nat := 0xFFFFFFFFFFFFFFFF

/-- The largest integer that is kept as one with a minus sign in front. -/
def largestNegated : Nat := 0x8000000000000000

/-- Appends digits to an integer as long as it stays in range; the digits left over follow. -/
def gather (n : Nat) : Bytes → Nat × Bytes
  | [] => (n, [])
  | d :: ds =>
    let m := n * 10 + digitValue d
    if m > largestNatural then (n, d :: ds) else gather m ds

/-- The largest exponent whose value is looked at. -/
def largestExponent : Nat := 0x7FFFFFFF

/-- A number in parts: its sign, the digits before and after the point, and the exponent. -/
structure Literal where
  negative : Bool
  whole : Bytes
  fraction : Option Bytes
  exponent : Option (Bool × Bytes)
  deriving DecidableEq, Repr

def readDigits (input : Bytes) : Option (Bytes × Bytes) :=
  let digits := input.takeWhile isDigit
  if digits.isEmpty then none else some (digits, input.dropWhile isDigit)

def readFraction : Bytes → Option (Option Bytes × Bytes)
  | 0x2E :: rest => (readDigits rest).map fun (digits, rest) => (some digits, rest)
  | input => some (none, input)

def readSign : Bytes → Bool × Bytes
  | 0x2B :: rest => (false, rest)
  | 0x2D :: rest => (true, rest)
  | input => (false, input)

def readExponent : Bytes → Option (Option (Bool × Bytes) × Bytes)
  | [] => some (none, [])
  | b :: rest =>
    if b = 0x65 || b = 0x45 then
      let (negative, rest) := readSign rest
      (readDigits rest).map fun (digits, rest) => (some (negative, digits), rest)
    else some (none, b :: rest)

/-- The parts of the number in front. A zero in front of other digits is refused. -/
def readLiteral (input : Bytes) : Option (Literal × Bytes) := do
  let (negative, input) := match input with
    | 0x2D :: rest => (true, rest)
    | _ => (false, input)
  let (whole, input) ← readDigits input
  if whole.head? == some 0x30 && whole.length > 1 then none
  else
    let (fraction, input) ← readFraction input
    let (exponent, input) ← readExponent input
    some (⟨negative, whole, fraction, exponent⟩, input)

def decimal (digits : Bytes) : Nat := digits.foldl (fun n d => n * 10 + digitValue d) 0

/-- The number that a literal stands for; none if it is too large. Integers that fit are kept, and
minus zero is a fraction. Digits past the range of integers count as zeros. -/
def Literal.value? (l : Literal) : Option Number :=
  let (n, excess) := gather 0 l.whole
  match l.fraction, l.exponent with
  | none, none =>
    if excess.isEmpty && (!l.negative || (0 < n && n ≤ largestNegated)) then
      some (.integer (if l.negative then -n else n))
    else (Binary64.ofDecimal l.negative n excess.length).map .real
  | fraction, exponent =>
    let digits := fraction.getD []
    let (n, rest) := gather n digits
    let shift : Int := excess.length - (digits.length - rest.length)
    match exponent with
    | none => (Binary64.ofDecimal l.negative n shift).map .real
    | some (down, digits) =>
      let e := decimal digits
      if e > largestExponent then
        if n = 0 || down then some (.real ⟨l.negative, 0, -1074⟩) else none
      else
        (Binary64.ofDecimal l.negative n (if down then shift - e else shift + e)).map .real

end HostAccess.Json
