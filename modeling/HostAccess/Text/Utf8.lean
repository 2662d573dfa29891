import HostAccess.Bytes

/-!
# UTF-8

Text is written as UTF-8 and read back from bytes that need not be UTF-8. Reading goes byte by byte:
between characters, or with the start of a character in hand. A byte that cannot continue that start
closes it as a broken part, so a broken part is as long as it can be while still the beginning of
some character, and every other stray byte is a broken part of its own.
-/
namespace HostAccess.Utf8

/-- A stretch of bytes as it is read: a character, or bytes that are part of none. -/
inductive Part where
  | char (c : Char)
  | broken (bytes : Bytes)
  deriving DecidableEq, Repr

/-- The start of a character: how many bytes are owed, the range of the next one, the value of the
bits so far, and the bytes themselves. -/
structure Pending where
  owed : Nat
  low : UInt8
  high : UInt8
  value : Nat
  bytes : Bytes
  deriving DecidableEq, Repr

def first (b : UInt8) : List Part × Option Pending :=
  if b < 0x80 then ([.char (Char.ofNat b.toNat)], none)
  else if b < 0xC2 then ([.broken [b]], none)
  else if b < 0xE0 then ([], some ⟨1, 0x80, 0xBF, b.toNat - 0xC0, [b]⟩)
  else if b = 0xE0 then ([], some ⟨2, 0xA0, 0xBF, 0, [b]⟩)
  else if b = 0xED then ([], some ⟨2, 0x80, 0x9F, 0xD, [b]⟩)
  else if b < 0xF0 then ([], some ⟨2, 0x80, 0xBF, b.toNat - 0xE0, [b]⟩)
  else if b = 0xF0 then ([], some ⟨3, 0x90, 0xBF, 0, [b]⟩)
  else if b < 0xF4 then ([], some ⟨3, 0x80, 0xBF, b.toNat - 0xF0, [b]⟩)
  else if b = 0xF4 then ([], some ⟨3, 0x80, 0x8F, 4, [b]⟩)
  else ([.broken [b]], none)

/-- Reads one byte in any state: the parts it completes and the state after it. -/
def step : Option Pending → UInt8 → List Part × Option Pending
  | none, b => first b
  | some p, b =>
    if p.low ≤ b ∧ b ≤ p.high then
      let value := p.value * 64 + (b.toNat - 0x80)
      if p.owed ≤ 1 then ([.char (Char.ofNat value)], none)
      else ([], some ⟨p.owed - 1, 0x80, 0xBF, value, p.bytes ++ [b]⟩)
    else
      let (parts, state) := first b
      (.broken p.bytes :: parts, state)

def partsFrom : Option Pending → Bytes → List Part
  | none, [] => []
  | some p, [] => [.broken p.bytes]
  | state, b :: rest =>
    let (parts, state) := step state b
    parts ++ partsFrom state rest

def parts (b : Bytes) : List Part := partsFrom none b

def characters? : List Part → Option (List Char)
  | [] => some []
  | .char c :: rest => (characters? rest).map (c :: ·)
  | .broken _ :: _ => none

def decode? (b : Bytes) : Option String := (characters? (parts b)).map String.ofList

/-- What is shown for a part: the character, or one U+FFFD for a whole broken part. -/
def Part.shown : Part → Char
  | .char c => c
  | .broken _ => Char.ofNat 0xFFFD

def lossy (b : Bytes) : String := String.ofList ((parts b).map Part.shown)

def encode (s : String) : Bytes := s.toList.flatMap String.utf8EncodeChar

end HostAccess.Utf8
