import HostAccess.Shell.Command

/-!
# Tokens of the shell

A script is read as words and marks. A word goes on until a blank or a mark that is not quoted;
between single quotes nothing has a meaning of its own, between double quotes only parameters have.
-/
namespace HostAccess.Shell

inductive Token where
  | word (w : Word)
  | newline
  | mark (cs : Chars)
  /-- A redirection: the stream in front of it, if one is, and its mark. -/
  | redirect (stream : Option Nat) (cs : Chars)
  deriving Repr, DecidableEq

namespace Token

def single : Char := Char.ofNat 0x27

def double : Char := Char.ofNat 0x22

def backslash : Char := Char.ofNat 0x5C

def beginsName (c : Char) : Bool := c.isAlpha || c == '_'

def continuesName (c : Char) : Bool := c.isAlphanum || c == '_'

def special : Chars := "#?$@*!-".toList

def parameter? : Chars → Option (Chars × Chars)
  | '\x7b' :: rest =>
    match rest.dropWhile (· != '\x7d') with
    | _ :: after => some (rest.takeWhile (· != '\x7d'), after)
    | [] => none
  | c :: rest =>
    if special.contains c || c.isDigit then some ([c], rest)
    else if beginsName c then
      some (c :: rest.takeWhile continuesName, rest.dropWhile continuesName)
    else none
  | [] => none

def readQuoted : Nat → Chars → Option (Word × Chars)
  | 0, _ => none
  | _, [] => none
  | fuel + 1, c :: rest =>
    if c == double then some ([], rest)
    else if c == '$' then
      match parameter? rest with
      | some (name, rest) =>
        (readQuoted fuel rest).map fun (w, rest) => (.parameter name true :: w, rest)
      | none => (readQuoted fuel rest).map fun (w, rest) => (.text [c] true :: w, rest)
    else if c == backslash then
      match rest with
      | '\n' :: rest => readQuoted fuel rest
      | d :: rest =>
        let cs := if d == double || d == '$' || d == backslash || d.toNat == 0x60 then [d] else [c, d]
        (readQuoted fuel rest).map fun (w, rest) => (.text cs true :: w, rest)
      | [] => none
    else (readQuoted fuel rest).map fun (w, rest) => (.text [c] true :: w, rest)

def endsWord (c : Char) : Bool := " \t\n;&|<>()".toList.contains c

/-- Reads a word and what follows it; `none` if a quote is left open. -/
def readWord : Nat → Chars → Option (Word × Chars)
  | 0, _ => none
  | _, [] => some ([], [])
  | fuel + 1, c :: rest =>
    if endsWord c then some ([], c :: rest)
    else if c == single then
      match rest.dropWhile (· != single) with
      | _ :: after =>
        (readWord fuel after).map fun (w, after) =>
          (.text (rest.takeWhile (· != single)) true :: w, after)
      | [] => none
    else if c == double then do
      let (inner, rest) ← readQuoted fuel rest
      let (w, rest) ← readWord fuel rest
      return (.text [] true :: inner ++ w, rest)
    else if c == backslash then
      match rest with
      | '\n' :: rest => readWord fuel rest
      | d :: rest => (readWord fuel rest).map fun (w, rest) => (.text [d] true :: w, rest)
      | [] => some ([.text [c] true], [])
    else if c == '$' then
      match parameter? rest with
      | some (name, rest) => (readWord fuel rest).map fun (w, rest) => (.parameter name false :: w, rest)
      | none => (readWord fuel rest).map fun (w, rest) => (.text [c] false :: w, rest)
    else (readWord fuel rest).map fun (w, rest) => (.text [c] false :: w, rest)

def redirections : List Chars := [">>", ">&", "<&", ">", "<"].map String.toList

def marks : List Chars := ["&&", "||", ";;", ";", "&", "|", "(", ")"].map String.toList

def mark? (texts : List Chars) (cs : Chars) : Option (Chars × Chars) :=
  (texts.find? (·.isPrefixOf cs)).map fun text => (text, cs.drop text.length)

def read : Nat → Chars → Option (List Token)
  | 0, _ => none
  | _, [] => some []
  | fuel + 1, c :: rest =>
    if c == ' ' || c == '\t' then read fuel rest
    else if c == '\n' then (read fuel rest).map (.newline :: ·)
    else if c == '#' then read fuel (rest.dropWhile (· != '\n'))
    else if c == backslash && rest.head? == some '\n' then read fuel rest.tail
    else
      let stream := if c.isDigit then some (c.toNat - 0x30) else none
      match mark? redirections (if stream.isSome then rest else c :: rest) with
      | some (text, rest) => (read fuel rest).map (.redirect stream text :: ·)
      | none =>
        match mark? marks (c :: rest) with
        | some (text, rest) => (read fuel rest).map (.mark text :: ·)
        | none => do
          let (w, rest) ← readWord fuel (c :: rest)
          return .word w :: (← read fuel rest)

end Token

def tokens? (script : Chars) : Option (List Token) := Token.read (2 * script.length + 2) script

end HostAccess.Shell
