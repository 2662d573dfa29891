/-!
# Wildcard patterns

A pattern stands for the names it matches: `?` for one character, `*` for any characters, a set in
brackets for one character in it or, after `!`, for one that is not. `**` stands for any number of
folders and has to be a whole part of a path. Every other character stands for itself, the leading
dot of a hidden name included.
-/
namespace HostAccess.Glob

/-- An element of a set of characters: all from `first` to `last`. -/
structure Span where
  first : Char
  last : Char
  deriving DecidableEq, Repr

inductive Token where
  | char (c : Char)
  | anyChar
  | anyChars
  | anyFolders
  | oneOf (set : List Span)
  | noneOf (set : List Span)
  deriving DecidableEq, Repr

inductive Problem where
  | stars
  /-- Two stars are not a whole part of the path. -/
  | folders
  /-- A bracket is not closed, or its set is empty. -/
  | set
  deriving DecidableEq, Repr

structure Fault where
  position : Nat
  problem : Problem
  deriving DecidableEq, Repr

def Problem.message : Problem → String
  | .stars => "wildcards are either regular `*` or recursive `**`"
  | .folders => "recursive wildcards must form a single path component"
  | .set => "invalid range pattern"

def Fault.message (f : Fault) : String :=
  "Pattern syntax error near position " ++ toString f.position ++ ": " ++ f.problem.message

/-- The elements of a set: two characters with `-` between them are a span. -/
def spans : List Char → List Span
  | [] => []
  | [a] => [⟨a, a⟩]
  | [a, b] => [⟨a, a⟩, ⟨b, b⟩]
  | a :: b :: c :: rest => if b = '-' then ⟨a, c⟩ :: spans rest else ⟨a, a⟩ :: spans (b :: c :: rest)

/-- The set before the closing bracket, which holds at least one character: a bracket right at its
start does not close it. -/
def set? : List Char → Option (List Char)
  | [] => none
  | c :: rest => if rest.contains ']' then some (c :: rest.takeWhile (· != ']')) else none

/-- Reads the token that starts with `c` at a position, after the character `before` and followed by
`rest`; also says how many further characters belong to it. -/
def token (position : Nat) (before : Option Char) (c : Char) (rest : List Char) :
    Except Fault (Token × Nat) :=
  match c with
  | '?' => .ok (.anyChar, 0)
  | '*' =>
    match rest.takeWhile (· == '*') with
    | [] => .ok (.anyChars, 0)
    | [_] =>
      if before.isSome && before != some '/' then .error ⟨position - 1, .folders⟩
      else match rest with
        | [_] => .ok (.anyFolders, 1)
        | _ :: '/' :: _ => .ok (.anyFolders, 2)
        | _ => .error ⟨position + 2, .folders⟩
    | _ => .error ⟨position + 2, .stars⟩
  | '[' =>
    match rest with
    | '!' :: inner =>
      match set? inner with
      | some set => .ok (.noneOf (spans set), set.length + 2)
      | none => .error ⟨position, .set⟩
    | _ =>
      match set? rest with
      | some set => .ok (.oneOf (spans set), set.length + 1)
      | none => .error ⟨position, .set⟩
  | c => .ok (.char c, 0)

/-- The tokens from a position on, after passing over `skip` characters that belong to the token
before. -/
def tokensFrom : Nat → Nat → Option Char → List Char → Except Fault (List Token)
  | _, _, _, [] => .ok []
  | skip + 1, position, _, c :: rest => tokensFrom skip (position + 1) (some c) rest
  | 0, position, before, c :: rest => do
    let (token, skip) ← token position before c rest
    return token :: (← tokensFrom skip (position + 1) (some c) rest)

def tokens (pattern : List Char) : Except Fault (List Token) := tokensFrom 0 0 none pattern

def inSet (set : List Span) (c : Char) : Bool := set.any fun s => s.first ≤ c && c ≤ s.last

def Token.accepts (c : Char) : Token → Bool
  | .char d => c == d
  | .anyChar => true
  | .oneOf set => inSet set c
  | .noneOf set => !inSet set c
  | .anyChars | .anyFolders => false

def anyTail (p : List Char → Bool) : List Char → Bool
  | [] => p []
  | c :: rest => p (c :: rest) || anyTail p rest

def accepts : List Token → List Char → Bool
  | [], name => name.isEmpty
  | .anyChars :: rest, name => anyTail (accepts rest) name
  | .anyFolders :: rest, name => anyTail (accepts rest) name
  | _ :: _, [] => false
  | token :: rest, c :: name => token.accepts c && accepts rest name

/-- The text that a pattern without wildcards is. -/
def literal? : List Token → Option (List Char)
  | [] => some []
  | .char c :: rest => (literal? rest).map (c :: ·)
  | _ :: _ => none

end HostAccess.Glob
