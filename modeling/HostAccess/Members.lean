import HostAccess.Error
import HostAccess.Json.Basic

/-!
# Members

Who is to be added to a group or to a rule: members by their own names, and groups of members. The
two are told to the server apart, each in the order in which it was given.
-/
namespace HostAccess

structure Members where
  direct : List String
  groups : List String
  deriving DecidableEq, Repr

namespace Members

def empty : Members := ⟨[], []⟩

def andDirect (m : Members) (name : String) : Members := { m with direct := m.direct ++ [name] }

def andGroup (m : Members) (name : String) : Members := { m with groups := m.groups ++ [name] }

/-- Whether there are no members. -/
def isEmpty (m : Members) : Bool := m.direct.isEmpty && m.groups.isEmpty

/-- The members with other names in the place of their own. Groups keep their names. -/
def mapDirect (f : String → String) (m : Members) : Members := { m with direct := m.direct.map f }

def entry (key : String) (names : List String) (options : Json.Members) : Json.Members :=
  if names.isEmpty then options else Json.insert key (Json.Value.texts names) options

/-- The members as the arguments of a command. There has to be a member, and a container that has no
key for groups cannot take any. -/
def options (m : Members) (directKey : String) (groupKey : Option String) :
    Except Misuse Json.Members :=
  if m.isEmpty then .error (.noMembers directKey)
  else
    let direct := entry directKey m.direct []
    match groupKey with
    | some key => .ok (entry key m.groups direct)
    | none => if m.groups.isEmpty then .ok direct else .error (.groupsAsMembers directKey)

end Members

end HostAccess
