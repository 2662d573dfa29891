import HostAccess.Bytes

/-!
# Tagged elements

Binary data is made of elements: a tag, the number of bytes that follow, and those bytes, which may
be elements again. The number is written in the shortest way, and elements are of a limited size.
-/
namespace HostAccess.Der

/-! The tags of elements. -/
namespace Tag

def boolean : UInt8 := 0x01

def integer : UInt8 := 0x02

def bits : UInt8 := 0x03

def octets : UInt8 := 0x04

def identifier : UInt8 := 0x06

def sequence : UInt8 := 0x30

def numbered (n : UInt8) : UInt8 := 0xA0 + n

end Tag

def sizeLimit : Nat := 0xFFFF

def size? : Bytes → Option (Nat × Bytes)
  | 0x81 :: n :: rest => if n < 0x80 then none else some (n.toNat, rest)
  | 0x82 :: high :: low :: rest =>
    let n := high.toNat * 256 + low.toNat
    if n < 0x100 || sizeLimit ≤ n then none else some (n, rest)
  | n :: rest => if n < 0x80 then some (n.toNat, rest) else none
  | [] => none

/-- Splits off an element of this tag: what it holds, and what follows it. -/
def element? (tag : UInt8) : Bytes → Option (Bytes × Bytes)
  | [] => none
  | t :: rest =>
    if t != tag then none
    else do
      let (n, rest) ← size? rest
      if n ≤ rest.length then some (rest.take n, rest.drop n) else none

/-- What an element of this tag holds that nothing follows. -/
def only? (tag : UInt8) (input : Bytes) : Option Bytes := do
  let (contents, rest) ← element? tag input
  if rest.isEmpty then some contents else none

/-- What some elements of this tag hold that nothing follows; `count` bounds how many there are. -/
def upTo? (tag : UInt8) : Nat → Bytes → Option (List Bytes)
  | _, [] => some []
  | 0, _ :: _ => none
  | count + 1, input => do
    let (contents, rest) ← element? tag input
    return contents :: (← upTo? tag count rest)

/-- What the elements of this tag hold that the input is made of. Each takes up a byte at least. -/
def all? (tag : UInt8) (input : Bytes) : Option (List Bytes) := upTo? tag input.length input

end HostAccess.Der
