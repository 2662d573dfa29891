import HostAccess.Pam.Result

/-!
# Outcomes of an account check

What an account check decides, named where a scenario cares: access is allowed, denied, or the user
is unknown. Every other result code stands for itself.
-/
namespace HostAccess

inductive Outcome where
  | allowed
  | denied
  /-- The user is not in the directory, or is the administrator of the machine itself. -/
  | userUnknown
  | code (c : Int32)
  deriving DecidableEq, Repr

namespace Outcome

def toCode : Outcome → Int32
  | .allowed => Pam.Result.success.code
  | .denied => Pam.Result.permissionDenied.code
  | .userUnknown => Pam.Result.userUnknown.code
  | .code c => c

def ofCode (c : Int32) : Outcome :=
  match Pam.Result.ofCode c with
  | .success => .allowed
  | .permissionDenied => .denied
  | .userUnknown => .userUnknown
  | _ => .code c

def render (o : Outcome) : String := (Pam.Result.ofCode o.toCode).render

end Outcome

end HostAccess
