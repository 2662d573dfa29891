import HostAccess.Client
import HostAccess.Members

/-!
# Objects of the directory

An object of the directory is a kind and a name: nothing of what the server knows about it is kept.
Every operation on it is one command. A host always goes by its full name, also as a member.
-/
namespace HostAccess

inductive Kind where
  | host
  | user
  | hostGroup
  | userGroup
  | serviceGroup
  | rule
  deriving DecidableEq, Repr

namespace Kind

def name : Kind → String
  | .host => "host"
  | .user => "user"
  | .hostGroup => "hostgroup"
  | .userGroup => "group"
  | .serviceGroup => "hbacsvcgroup"
  | .rule => "hbacrule"

def all : List Kind := [.host, .user, .hostGroup, .userGroup, .serviceGroup, .rule]

def ofName? (name : String) : Option Kind := all.find? fun k => k.name == name

/-- What the server asks for when an object is created. A host of a test is in no name service. -/
def addOptions (kind : Kind) (name : String) : Json.Members :=
  match kind with
  | .host => [("force", .bool true)]
  | .user => [("givenname", .text "HBAC"), ("sn", .text name)]
  | .hostGroup | .userGroup | .serviceGroup | .rule => []

end Kind

structure Object where
  kind : Kind
  name : String
  deriving DecidableEq, Repr

inductive Membership where
  | hostInGroup
  | userInGroup
  | serviceInGroup
  | userOfRule
  | hostOfRule
  | serviceOfRule
  deriving DecidableEq, Repr

namespace Membership

def kind : Membership → Kind
  | .hostInGroup => .hostGroup
  | .userInGroup => .userGroup
  | .serviceInGroup => .serviceGroup
  | .userOfRule | .hostOfRule | .serviceOfRule => .rule

def action : Membership → String
  | .hostInGroup | .userInGroup | .serviceInGroup => "add_member"
  | .userOfRule => "add_user"
  | .hostOfRule => "add_host"
  | .serviceOfRule => "add_service"

def directKey : Membership → String
  | .hostInGroup | .hostOfRule => "host"
  | .userInGroup | .userOfRule => "user"
  | .serviceInGroup | .serviceOfRule => "hbacsvc"

/-- The key of groups of members. Groups of services hold no groups. -/
def groupKey? : Membership → Option String
  | .hostInGroup | .hostOfRule => some "hostgroup"
  | .userInGroup | .userOfRule => some "group"
  | .serviceInGroup => none
  | .serviceOfRule => some "hbacsvcgroup"

def isOfHosts : Membership → Bool
  | .hostInGroup | .hostOfRule => true
  | .userInGroup | .serviceInGroup | .userOfRule | .serviceOfRule => false

end Membership

namespace Object

variable {ν : Type}

def named (server : Identity) (kind : Kind) (name : String) : Object :=
  ⟨kind, if kind = .host then server.qualify name else name⟩

def method (kind : Kind) (action : String) : String := kind.name ++ "_" ++ action

def run (c : Client ν) (kind : Kind) (action name : String) (options : Json.Members) :
    Act ν Unit := do
  Act.note .fixture .debug (method kind action ++ " " ++ name)
  c.command (method kind action) [.text name] options

def add (c : Client ν) (o : Object) : Act ν Unit :=
  run c o.kind "add" o.name (o.kind.addOptions o.name)

def remove (c : Client ν) (o : Object) : Act ν Unit := run c o.kind "del" o.name []

def addMembers (c : Client ν) (m : Membership) (name : String) (members : Members) :
    Act ν Unit := do
  let members := if m.isOfHosts then members.mapDirect c.identity.qualify else members
  match members.options m.directKey m.groupKey? with
  | .ok options => run c m.kind m.action name options
  | .error cause => Act.fail (.usage cause)

def enable (c : Client ν) (name : String) : Act ν Unit := run c .rule "enable" name []

/-- Makes a rule not count. -/
def disable (c : Client ν) (name : String) : Act ν Unit := run c .rule "disable" name []

end Object

end HostAccess
