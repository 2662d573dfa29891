import HostAccess.Object

/-!
# Fixtures

A scenario creates objects and switches rules off, and everything that it did is undone afterwards,
the newest step first. A step is remembered only once the server has done it, so that what failed is
not undone. Undoing tries every step, whatever becomes of the others.
-/
namespace HostAccess

inductive Undoing where
  | removal
  | enabling
  deriving DecidableEq, Repr

def Undoing.action : Undoing → String
  | .removal => "del"
  | .enabling => "enable"

structure Undo where
  kind : Kind
  undoing : Undoing
  name : String
  deriving DecidableEq, Repr

/-- The steps of a scenario that are to be undone, newest first. -/
structure Fixtures where
  steps : List Undo
  deriving DecidableEq, Repr

namespace Fixtures

variable {ν : Type}

def empty : Fixtures := ⟨[]⟩

def add (f : Fixtures) (c : Client ν) (o : Object) : Act ν Fixtures := do
  o.add c
  return ⟨⟨o.kind, .removal, o.name⟩ :: f.steps⟩

/-- Creates the object that goes by a name in the server's domain, and remembers to remove it. -/
def create (f : Fixtures) (c : Client ν) (kind : Kind) (name : String) :
    Act ν (Object × Fixtures) := do
  let object := Object.named c.identity kind name
  return (object, ← f.add c object)

/-- The name of the fault that a rule is switched off already. -/
def alreadyInactive : String := "AlreadyInactive"

/-- Switches a rule off, and remembers to switch it on again. A rule that is off already stays as it
is, and nothing is remembered. -/
def disableRule (f : Fixtures) (c : Client ν) (name : String) : Act ν Fixtures := do
  let method := Object.method .rule "disable"
  let reply ← c.call method [.text name] []
  if reply.fault.bind (·.name) = some alreadyInactive then
    Act.note .fixture .info ("rule " ++ name ++ " is already disabled")
    return f
  Act.ofExcept (reply.check method)
  return ⟨⟨.rule, .enabling, name⟩ :: f.steps⟩

/-- Undoes one step. A failure is written down and given back. -/
def undo (c : Client ν) (u : Undo) : Act ν (Option Error) := do
  match ← Act.attempt (Object.run c u.kind u.undoing.action u.name []) with
  | .ok () => return none
  | .error e =>
    Act.note .fixture .warn
      ("cannot " ++ u.undoing.action ++ " " ++ u.kind.name ++ " " ++ u.name ++ ": " ++ e.message)
    return some e

/-- Undoes steps in order. The first failure, if there is one, is given back along with the steps that
are left. -/
def undoAll (c : Client ν) : List Undo → Act ν (Option Error × List Undo)
  | [] => return (none, [])
  | u :: rest => do
    let failure ← undo c u
    let (later, left) ← undoAll c rest
    return (failure.or later, left)

/-- Undoes everything for a scenario that ended early; there is nobody to report a failure to. -/
def drop (f : Fixtures) (c : Client ν) : Act ν Unit := do
  if f.steps.isEmpty then return
  Act.note .fixture .info ("undoing " ++ toString f.steps.length ++ " leftover fixture steps")
  let _ ← undoAll c f.steps

/-- Undoes everything, drops what is left after that, and reports the first failure. -/
def teardown (f : Fixtures) (c : Client ν) : Act ν Unit := do
  let (failure, left) ← undoAll c f.steps
  drop ⟨left⟩ c
  match failure with
  | none => pure ()
  | some e => Act.fail e

end Fixtures

end HostAccess
