import HostAccess.Pam.Transaction

/-!
# The account check as a command

The command runs the account phase for the user and the service that it is given and exits with the
result code, so that its caller can read the decision off the exit status. An exit status has eight
bits.
-/
namespace HostAccess.Pam.Command

def defaultService : String := "pam_hbac_test"

def defaultUser : String := "dummy"

/-- The user and the service that the arguments name. Further arguments do not count. -/
def subject (args : List String) : String × String :=
  (args[0]?.getD defaultUser, args[1]?.getD defaultService)

/-- What a run of the command says, how it exits, and what happened to the stack. -/
structure Run where
  stdout : String
  stderr : String
  exitCode : Int32
  events : List Event

def Run.status (r : Run) : Nat := (r.exitCode.toInt % 256).toNat

/-- What is said about arguments that are missing: to the caller, and as a warning. -/
def remarks (args : List String) : String × String :=
  match args with
  | [] => ("", "missing user and service name, using default\n")
  | [_] => ("using first argument as user and default service name\n", "")
  | _ => ("", "")

def run (stack : Stack) (threshold : Threshold) (args : List String) : Run :=
  let (user, service) := subject args
  let (said, warned) := remarks args
  let said := said ++ "service: " ++ service ++ "\nuser: " ++ user ++ "\n"
  let (answer, events) := transact stack user service
  match answer with
  | .ok code => {
      stdout := said ++ "pam_acct_mgmt: " ++ (Result.ofCode code).render ++ "\n"
      stderr := warned ++ (transactionRecord user service code).shown threshold
      exitCode := code
      events }
  | .error (.notStarted result) => {
      stdout := said
      stderr := warned ++ "pam_start failed: " ++ result.render ++ "\n"
      exitCode := result.code
      events }
  | .error failure => {
      stdout := said
      stderr := warned ++ failure.message ++ "\n"
      exitCode := Result.systemError.code
      events }

end HostAccess.Pam.Command
