import HostAccess.Json.Reader

/-!
# Reading chosen members only

A reply is read for a few members and the rest of it is passed over. The chosen members come in an
object, in any order and each once at most, or as a list of that length at most, in their order. What
is chosen is read as a value and has to be one; what is not chosen only has to have the form of one.
A chosen member that is absent and one that is `null` are the same.
-/
namespace HostAccess.Json.Skim

/-- A value that may be `null`, which is then no value. -/
def present : Value → Option Value
  | .null => none
  | v => some v

/-- The members found so far, by key. `none` as a value stands for `null`. -/
abbrev Found := List (String × Option Value)

/-- Reads the members of an object up to its end; there is at least one. -/
def members (names : List String) : Nat → Nat → Found → Bytes → Option (Found × Bytes)
  | 0, _, _, _ => none
  | fuel + 1, depth, found, input => do
    let (key, rest) ← readKey input
    let (found, rest) ←
      if names.contains key then
        if (found.lookup key).isSome then none
        else (readValue fuel depth rest).map fun (v, rest) => ((key, present v) :: found, rest)
      else (skipValue fuel rest).map fun rest => (found, rest)
    match skipBlanks rest with
    | 0x2C :: rest => members names fuel depth found rest
    | 0x7D :: rest => some (found, rest)
    | _ => none

/-- The chosen members of a byte string that is an object, or a list of no more items than there are
names; `none` if it is neither. -/
def read (names : List String) (input : Bytes) : Option Found := do
  let fuel := input.length + 1
  let (found, rest) ← match skipBlanks input with
    | 0x7B :: rest =>
      match skipBlanks rest with
      | 0x7D :: rest => some ([], rest)
      | rest => members names fuel (deepest - 1) [] rest
    | 0x5B :: rest =>
      match skipBlanks rest with
      | 0x5D :: rest => some ([], rest)
      | rest => do
        let (items, rest) ← readItems fuel (deepest - 1) rest
        if items.length ≤ names.length then some (names.zip (items.map present), rest) else none
    | _ => none
  if (skipBlanks rest).isEmpty then some found else none

end HostAccess.Json.Skim
