import HostAccess.Bytes

/-!
# Base 64

Four characters of six bits each stand for three bytes. The last group may stand for fewer: it is
filled up with padding, or is cut short where the padding would begin. Blanks may stand anywhere.
-/
namespace HostAccess.Base64

def digit? (b : UInt8) : Option Nat :=
  let n := b.toNat
  if 0x41 ≤ n ∧ n ≤ 0x5A then some (n - 0x41)
  else if 0x61 ≤ n ∧ n ≤ 0x7A then some (n - 0x61 + 26)
  else if 0x30 ≤ n ∧ n ≤ 0x39 then some (n - 0x30 + 52)
  else if n = 0x2B then some 62
  else if n = 0x2F then some 63
  else none

def padding : UInt8 := 0x3D

def isBlank (b : UInt8) : Bool := b == 0x20 || (9 ≤ b && b ≤ 13)

/-- The byte of two characters. The bits that do not fill a byte do not count. -/
def one? (a b : UInt8) : Option Bytes := do
  let a ← digit? a
  let b ← digit? b
  return [UInt8.ofNat (a * 4 + b / 16)]

/-- The bytes of three characters. The bits that do not fill a byte do not count. -/
def two? (a b c : UInt8) : Option Bytes := do
  let first ← one? a b
  let b ← digit? b
  let c ← digit? c
  return first ++ [UInt8.ofNat (b % 16 * 16 + c / 4)]

def three? (a b c d : UInt8) : Option Bytes := do
  let firsts ← two? a b c
  let c ← digit? c
  let d ← digit? d
  return firsts ++ [UInt8.ofNat (c % 4 * 64 + d)]

/-- The bytes of groups of four characters. Only the last group may be padded or be short. -/
def groups? : Bytes → Option Bytes
  | [] => some []
  | [_] => none
  | [a, b] => one? a b
  | [a, b, c] => two? a b c
  | a :: b :: c :: d :: rest =>
    if d == padding then
      if !rest.isEmpty then none else if c == padding then one? a b else two? a b c
    else do return (← three? a b c d) ++ (← groups? rest)

def decode? (text : Bytes) : Option Bytes := groups? (text.filter fun b => !isBlank b)

end HostAccess.Base64
