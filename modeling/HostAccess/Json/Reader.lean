import HostAccess.Json.Lexical

/-!
# Reading JSON

A value is read from the front of a byte string, or only passed over. Reading keeps the value and
bounds how deep lists and objects may nest; passing over looks at the form alone and has no bound.
A recursion spends at least one byte of input, so the length of the input bounds it.
-/
namespace HostAccess.Json

def deepest : Nat := 127

def readKey (input : Bytes) : Option (String × Bytes) :=
  match skipBlanks input with
  | 0x22 :: rest => do
    let (key, rest) ← readText rest
    match skipBlanks rest with
    | 0x3A :: rest => some (key, rest)
    | _ => none
  | _ => none

mutual

/-- Reads the value in front; `depth` more levels of nesting are allowed. -/
def readValue : Nat → Nat → Bytes → Option (Value × Bytes)
  | 0, _, _ => none
  | fuel + 1, depth, input =>
    match skipBlanks input with
    | [] => none
    | 0x22 :: rest => (readText rest).map fun (s, rest) => (.text s, rest)
    | 0x5B :: rest =>
      if depth = 0 then none
      else match skipBlanks rest with
        | 0x5D :: rest => some (.list [], rest)
        | rest => (readItems fuel (depth - 1) rest).map fun (vs, rest) => (.list vs, rest)
    | 0x7B :: rest =>
      if depth = 0 then none
      else match skipBlanks rest with
        | 0x7D :: rest => some (.object [], rest)
        | rest => (readMembers fuel (depth - 1) rest).map fun (ms, rest) =>
            (.object (sorted ms), rest)
    | 0x6E :: rest => (expect [0x75, 0x6C, 0x6C] rest).map fun rest => (.null, rest)
    | 0x74 :: rest => (expect [0x72, 0x75, 0x65] rest).map fun rest => (.bool true, rest)
    | 0x66 :: rest => (expect [0x61, 0x6C, 0x73, 0x65] rest).map fun rest => (.bool false, rest)
    | rest => do
      let (literal, rest) ← readLiteral rest
      return (.number (← literal.value?), rest)

/-- Reads the items of a list up to its end; there is at least one. -/
def readItems : Nat → Nat → Bytes → Option (List Value × Bytes)
  | 0, _, _ => none
  | fuel + 1, depth, input => do
    let (value, rest) ← readValue fuel depth input
    match skipBlanks rest with
    | 0x2C :: rest => (readItems fuel depth rest).map fun (vs, rest) => (value :: vs, rest)
    | 0x5D :: rest => some ([value], rest)
    | _ => none

/-- Reads the members of an object up to its end; there is at least one. -/
def readMembers : Nat → Nat → Bytes → Option (List (String × Value) × Bytes)
  | 0, _, _ => none
  | fuel + 1, depth, input => do
    let (key, rest) ← readKey input
    let (value, rest) ← readValue fuel depth rest
    match skipBlanks rest with
    | 0x2C :: rest => (readMembers fuel depth rest).map fun (ms, rest) => ((key, value) :: ms, rest)
    | 0x7D :: rest => some ([(key, value)], rest)
    | _ => none

end

def read (input : Bytes) : Option Value :=
  match readValue (input.length + 1) deepest input with
  | some (value, rest) => if (skipBlanks rest).isEmpty then some value else none
  | none => none

mutual

def skipValue : Nat → Bytes → Option Bytes
  | 0, _ => none
  | fuel + 1, input =>
    match skipBlanks input with
    | [] => none
    | 0x22 :: rest => skipText rest
    | 0x5B :: rest =>
      match skipBlanks rest with
      | 0x5D :: rest => some rest
      | rest => skipItems fuel rest
    | 0x7B :: rest =>
      match skipBlanks rest with
      | 0x7D :: rest => some rest
      | rest => skipMembers fuel rest
    | 0x6E :: rest => expect [0x75, 0x6C, 0x6C] rest
    | 0x74 :: rest => expect [0x72, 0x75, 0x65] rest
    | 0x66 :: rest => expect [0x61, 0x6C, 0x73, 0x65] rest
    | rest => (readLiteral rest).map (·.2)

def skipItems : Nat → Bytes → Option Bytes
  | 0, _ => none
  | fuel + 1, input => do
    let rest ← skipValue fuel input
    match skipBlanks rest with
    | 0x2C :: rest => skipItems fuel rest
    | 0x5D :: rest => some rest
    | _ => none

def skipMembers : Nat → Bytes → Option Bytes
  | 0, _ => none
  | fuel + 1, input => do
    let rest ← match skipBlanks input with
      | 0x22 :: rest => skipText rest
      | _ => none
    let rest ← match skipBlanks rest with
      | 0x3A :: rest => skipValue fuel rest
      | _ => none
    match skipBlanks rest with
    | 0x2C :: rest => skipMembers fuel rest
    | 0x7D :: rest => some rest
    | _ => none

end

end HostAccess.Json
