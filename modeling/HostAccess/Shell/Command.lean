import HostAccess.Bytes

/-!
# Shell commands

A script of the shell is a command made of commands. Scripts hold bytes; a character stands for the
byte of its number, so that a script need not be text.
-/
namespace HostAccess.Shell

abbrev Chars := List Char

def ofBytes (b : Bytes) : Chars := b.map fun x => Char.ofNat x.toNat

def toBytes (cs : Chars) : Bytes := cs.map fun c => UInt8.ofNat c.toNat

/-- A piece of a word: a text, or the value of a parameter. A piece between quotes is kept whole. -/
inductive Piece where
  | text (cs : Chars) (quoted : Bool)
  | parameter (name : Chars) (quoted : Bool)
  deriving DecidableEq, Repr

abbrev Word := List Piece

inductive Redirection where
  | input (file : Word)
  | output (stream : Nat) (append : Bool) (file : Word)
  | copy (stream : Nat) (target : Word)
  deriving Repr

inductive Command where
  | nothing
  | simple (assignments : List (Chars × Word)) (words : List Word)
  | redirected (command : Command) (redirections : List Redirection)
  | sequence (first second : Command)
  | both (first second : Command)
  | either (first second : Command)
  | pipe (first second : Command)
  | negated (command : Command)
  | branch (condition yes no : Command)
  /-- Repeats `body` as long as the condition's success is `while_`. -/
  | loop (while_ : Bool) (condition body : Command)
  | each (name : Chars) (words : List Word) (body : Command)
  | choose (subject : Word) (cases : List (List Word × Command))

end HostAccess.Shell
