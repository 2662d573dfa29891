import HostAccess.Pam.Transaction

/-!
# A scripted PAM stack

The bench's PAM stack answers as it is told, and keeps a trace of what it was asked.
-/
namespace HostAccess.Bench

/-- What the stack is told. With `conversations`, the account phase asks something, decides by the
result of that, and then asks once more without a place for the response. -/
structure PamScript where
  start : Int32
  nullHandle : Bool
  account : Int32
  conversations : Nat
  deriving Repr

/-- A stack that is told nothing allows everything. -/
def PamScript.empty : PamScript := ⟨0, false, 0, 0⟩

def PamScript.stack (s : PamScript) : Pam.Stack where
  start := fun _ _ => .answer (s.start, if s.nullHandle then none else some 1)
  account := fun _ _ =>
    if s.conversations = 0 then .answer s.account
    else .converse (some (some 1)) fun result _ => .converse none fun _ _ => .answer result
  finish := fun _ _ => .answer Pam.Result.success.code

def traceLine : Pam.Event → String
  | .started service user =>
    "start service=" ++ service ++ " user=" ++ user ++ " conv=1 appdata=0 out_null=1\n"
  | .accountCheck _ flags => "acct_mgmt flags=" ++ toString flags.toInt ++ "\n"
  | .conversed _ result none => "conv result=" ++ toString result.toInt ++ "\n"
  | .conversed _ result (some left) =>
    "conv result=" ++ toString result.toInt ++ " resp_null=" ++
      (if left.isNone then "1" else "0") ++ "\n"
  | .ended _ status => "end status=" ++ toString status.toInt ++ "\n"

def trace (events : List Pam.Event) : String :=
  events.foldl (fun text e => text ++ traceLine e) ""

end HostAccess.Bench
