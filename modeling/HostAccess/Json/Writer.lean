import HostAccess.Json.Basic
import HostAccess.Number.Shortest
import HostAccess.Text.Quoted

/-!
# Writing JSON

Values are written without blanks. In a text only the quote, the backslash and the characters below
the space are escaped, by their short escapes where they have one. Logs show a value in a second
form, which names the kind of each value.
-/
namespace HostAccess.Json

def hexDigit (n : Nat) : Char := Nat.digitChar (n % 16)

def escape (c : Char) : List Char :=
  match c.toNat with
  | 8 => ['\\', 'b']
  | 9 => ['\\', 't']
  | 10 => ['\\', 'n']
  | 12 => ['\\', 'f']
  | 13 => ['\\', 'r']
  | 0x22 => ['\\', c]
  | 0x5C => ['\\', c]
  | n => if n < 0x20 then ['\\', 'u', '0', '0', hexDigit (n / 16), hexDigit n] else [c]

def quote (s : String) : String := "\"" ++ String.ofList (s.toList.flatMap escape) ++ "\""

def Number.render : Number → String
  | .integer n => toString n
  | .real x => x.render

mutual

def Value.render : Value → String
  | .null => "null"
  | .bool true => "true"
  | .bool false => "false"
  | .number n => n.render
  | .text s => quote s
  | .list [] => "[]"
  | .list (v :: vs) => "[" ++ v.render ++ renderItems vs ++ "]"
  | .object [] => "\x7b\x7d"
  | .object ((k, v) :: ms) => "\x7b" ++ quote k ++ ":" ++ v.render ++ renderMembers ms ++ "\x7d"

def renderItems : List Value → String
  | [] => ""
  | v :: vs => "," ++ v.render ++ renderItems vs

def renderMembers : List (String × Value) → String
  | [] => ""
  | (k, v) :: ms => "," ++ quote k ++ ":" ++ v.render ++ renderMembers ms

end

mutual

/-- A value as it is shown in a log: with the name of its kind. -/
def Value.describe : Value → String
  | .null => "Null"
  | .bool true => "Bool(true)"
  | .bool false => "Bool(false)"
  | .number n => "Number(" ++ n.render ++ ")"
  | .text s => "String(" ++ Text.Quoted.string s ++ ")"
  | .list [] => "Array []"
  | .list (v :: vs) => "Array [" ++ v.describe ++ describeItems vs ++ "]"
  | .object [] => "Object \x7b\x7d"
  | .object ((k, v) :: ms) =>
    "Object \x7b" ++ Text.Quoted.string k ++ ": " ++ v.describe ++ describeMembers ms ++ "\x7d"

def describeItems : List Value → String
  | [] => ""
  | v :: vs => ", " ++ v.describe ++ describeItems vs

def describeMembers : List (String × Value) → String
  | [] => ""
  | (k, v) :: ms => ", " ++ Text.Quoted.string k ++ ": " ++ v.describe ++ describeMembers ms

end

def describeAll : List Value → String
  | [] => "[]"
  | v :: vs => "[" ++ v.describe ++ describeItems vs ++ "]"

end HostAccess.Json
