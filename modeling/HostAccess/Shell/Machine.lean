import HostAccess.Environment
import HostAccess.FileTree
import HostAccess.Shell.Command
import HostAccess.Text.Lines

/-!
# What a script works on

A script sees files, variables, its arguments and its input, and it writes output. Words are expanded
before they are used: a parameter becomes its value, and a value that is not quoted is split at its
blanks.
-/
namespace HostAccess.Shell

structure Machine where
  files : FileTree
  environment : Environment
  name : Chars
  args : List Chars
  input : Chars
  output : Chars
  status : Nat

inductive Flow where
  | next
  /-- The loop around the command ends. -/
  | leave
  /-- The loop around the command goes on with its next turn. -/
  | again
  | exit (code : Nat)
  | kill (signal : Nat)
  deriving DecidableEq, Repr

namespace Machine

def processId : Chars := "4711".toList

def decimal (n : Nat) : Chars := (toString n).toList

def valueOf? (m : Machine) (name : Chars) : Option Chars :=
  (m.environment.get? (toBytes name)).map ofBytes

def assign (m : Machine) (name value : Chars) : Machine :=
  { m with environment := m.environment.set (toBytes name) (toBytes value) }

/-- The values of a parameter by its name: the arguments for `@`, and one value otherwise. -/
def named (m : Machine) (name : Chars) : List Chars :=
  match name with
  | ['@'] => m.args
  | ['*'] => [(m.args.intersperse [' ']).flatten]
  | ['#'] => [decimal m.args.length]
  | ['?'] => [decimal m.status]
  | ['$'] => [processId]
  | ['0'] => [m.name]
  | _ =>
    if name.all Char.isDigit then
      [(m.args[Nat.ofDigitChars 10 name 0 - 1]?).getD []]
    else [(m.valueOf? name).getD []]

/-- The values of a parameter. A parameter `name:-value` has this value if `name` has none. -/
def parameter (m : Machine) (p : Chars) : List Chars :=
  let values := m.named (p.takeWhile (· != ':'))
  match p.dropWhile (· != ':') with
  | ':' :: '-' :: standIn => if values.all List.isEmpty then [standIn] else values
  | _ => values

abbrev Fields := List Chars × Option Chars

def Fields.append (fields : Fields) (cs : Chars) : Fields :=
  (fields.1, some (fields.2.getD [] ++ cs))

def Fields.close (fields : Fields) : Fields := (fields.1 ++ fields.2.toList, none)

def isBlank (c : Char) : Bool := c == ' ' || c == '\t' || c == '\n'

def Fields.split (fields : Fields) (value : Chars) : Fields :=
  value.foldl (fun fields c => if isBlank c then Fields.close fields else Fields.append fields [c])
    fields

/-- Adds values that stay whole; only between them a field ends. -/
def Fields.whole (fields : Fields) : List Chars → Fields
  | [] => fields
  | [v] => Fields.append fields v
  | v :: vs => Fields.whole (Fields.close (Fields.append fields v)) vs

def addPiece (m : Machine) (fields : Fields) : Piece → Fields
  | .text cs _ => Fields.append fields cs
  | .parameter name true => Fields.whole fields (m.parameter name)
  | .parameter name false =>
    match m.parameter name with
    | [] => fields
    | v :: vs => vs.foldl (fun fields v => Fields.split (Fields.close fields) v)
        (Fields.split fields v)

def fields (m : Machine) (w : Word) : List Chars :=
  (Fields.close (w.foldl m.addPiece ([], none))).1

/-- The text that a word becomes where it is not split. -/
def text (m : Machine) (w : Word) : Chars :=
  w.flatMap fun
    | .text cs _ => cs
    | .parameter name _ => ((m.parameter name).intersperse [' ']).flatten

def write (m : Machine) (cs : Chars) : Machine := { m with output := m.output ++ cs }

def finish (m : Machine) (status : Nat) : Flow × Machine := (.next, { m with status })

end Machine

end HostAccess.Shell
