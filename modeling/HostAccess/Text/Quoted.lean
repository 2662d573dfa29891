import HostAccess.Text.Printable
import HostAccess.Text.Utf8

/-!
# Quoted text

Log messages and descriptions show a text between double quotes, so that its ends are visible and
every character in it can be told. What cannot be seen, or would be mistaken for the quoting itself,
is written as an escape.
-/
namespace HostAccess.Text.Quoted

/-- The hexadecimal digits of a number, in lower case and without leading zeros. -/
def hex (n : Nat) : List Char := Nat.toDigits 16 n

def hexByte (b : UInt8) : List Char :=
  [b.toNat / 16, b.toNat % 16].map fun d => (Nat.digitChar d).toUpper

def escape (c : Char) : List Char :=
  match c.toNat with
  | 0 => ['\\', '0']
  | 9 => ['\\', 't']
  | 10 => ['\\', 'n']
  | 13 => ['\\', 'r']
  | 0x22 => ['\\', c]
  | 0x5C => ['\\', c]
  | n =>
    if isExtending c || !isPrintable c then ['\\', 'u', '\x7b'] ++ hex n ++ ['\x7d'] else [c]

def string (s : String) : String :=
  "\"" ++ String.ofList (s.toList.flatMap escape) ++ "\""

def part : Utf8.Part → List Char
  | .char c => escape c
  | .broken bytes => bytes.flatMap fun b => ['\\', 'x'] ++ hexByte b

def path (p : Bytes) : String := "\"" ++ String.ofList ((Utf8.parts p).flatMap part) ++ "\""

end HostAccess.Text.Quoted
