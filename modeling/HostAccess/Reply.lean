import HostAccess.Error
import HostAccess.Http.Exchange
import HostAccess.Json.Skim
import HostAccess.Json.Writer
import HostAccess.Text.Lines

/-!
# Replies to commands

A command is answered by a status and a body. The body may report a fault, as an error of its own or
by the members that it refused. A body that is not of the expected form reports nothing, so that the
status alone decides.
-/
namespace HostAccess

/-- A fault that the server reports. The code is 0 if the server gave none. -/
structure Fault where
  code : Nat
  name : Option String
  message : String
  deriving DecidableEq, Repr

namespace Fault

def codeLimit : Nat := 0x100000000

def field {α : Type} (read : Json.Value → Option α) (absent : α) : Option Json.Value → Option α
  | none => some absent
  | some v => read v

def readCode (v : Json.Value) : Option Nat := v.natural?.filter (· < codeLimit)

/-- Reads a name, which may be `null`. -/
def readName : Json.Value → Option (Option String)
  | .null => some none
  | .text s => some (some s)
  | _ => none

def readMessage : Json.Value → Option String
  | .text s => some s
  | _ => none

def ofFields (code name message : Option Json.Value) : Option Fault := do
  return {
    code := ← field readCode 0 code
    name := ← field readName none name
    message := ← field readMessage "" message }

/-- A fault that has the form of one: an object, or a list of at most three fields. -/
def read? : Json.Value → Option Fault
  | .object members =>
    ofFields (members.lookup "code") (members.lookup "name") (members.lookup "message")
  | .list items => if items.length ≤ 3 then ofFields items[0]? items[1]? items[2]? else none
  | _ => none

/-- The fault that an error is. What does not have the form of a fault is reported as it is. -/
def ofError (error : Json.Value) : Fault := (read? error).getD ⟨0, none, error.render⟩

def describeRefusal (kind : String) (entry : Json.Value) : String :=
  match entry with
  | .list [.text name, .text reason] => kind ++ " " ++ name ++ " (" ++ reason ++ ")"
  | _ => kind ++ " " ++ entry.render

mutual

/-- The entries that were refused: those of all lists that members lead to. -/
def refusals (kind : String) : Json.Value → List String
  | .list entries => entries.map (describeRefusal kind)
  | .object members => memberRefusals members
  | _ => []

def memberRefusals : List (String × Json.Value) → List String
  | [] => []
  | (key, value) :: rest => refusals key value ++ memberRefusals rest

end

def ofResult? (result : Json.Value) : Option Fault := do
  let refused := refusals "member" (← result.member? "failed")
  if refused.isEmpty then none
  else
    let completed := ((result.member? "completed").bind Json.Value.natural?).getD 0
    some ⟨0, none,
      toString completed ++ " members added, rejected: " ++ Text.joinWith ", " refused⟩

end Fault

/-- What a command produced: a status, and a fault if there is one. -/
structure Reply where
  status : Nat
  fault : Option Fault
  deriving DecidableEq, Repr

namespace Reply

/-- A reply without a fault. -/
def ofStatus (status : Nat) : Reply := ⟨status, none⟩

/-- The fault that a body reports. An error counts before the result. -/
def faultOf (body : Bytes) : Option Fault :=
  match Json.Skim.read ["error", "result"] body with
  | none => none
  | some found =>
    match (found.lookup "error").join with
    | some error => some (Fault.ofError error)
    | none => (found.lookup "result").join.bind Fault.ofResult?

def ofBody (status : Nat) (body : Bytes) : Reply := ⟨status, faultOf body⟩

def isSuccess (r : Reply) : Bool := Http.isSuccess r.status && r.fault.isNone

def report (r : Reply) : Nat × String :=
  match r.fault with
  | none => (r.status, "unexpected HTTP status")
  | some f =>
    (if f.code = 0 then r.status else f.code,
      match f.name with
      | some name => name ++ ": " ++ f.message
      | none => f.message)

/-- A reply that is not a success is an error of the command. -/
def check (r : Reply) (method : String) : Except Error Unit :=
  if r.isSuccess then .ok () else .error (.remote method r.report.1 r.report.2)

end Reply

end HostAccess
