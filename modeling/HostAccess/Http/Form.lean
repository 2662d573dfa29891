import HostAccess.Pieces
import HostAccess.Text.Utf8

/-!
# Form bodies

Names and values of a form are sent in one line. Letters, digits and four marks stand for
themselves, a space is written `+`, and every other byte is written by its number.
-/
namespace HostAccess.Http.Form

def isPlain (b : UInt8) : Bool :=
  let c := Char.ofNat b.toNat
  b < 0x80 && (c.isAlphanum || c == '*' || c == '-' || c == '.' || c == '_')

def digit (n : UInt8) : UInt8 := if n < 10 then 0x30 + n else 0x41 + (n - 10)

def encodeByte (b : UInt8) : Bytes :=
  if isPlain b then [b] else if b = 0x20 then [0x2B] else [0x25, digit (b / 16), digit (b % 16)]

def encodeText (s : String) : Bytes := (Utf8.encode s).flatMap encodeByte

def encodeField (field : String × String) : Bytes :=
  encodeText field.1 ++ 0x3D :: encodeText field.2

def encode (fields : List (String × String)) : Bytes := Pieces.join 0x26 (fields.map encodeField)

end HostAccess.Http.Form
