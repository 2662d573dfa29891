import HostAccess.Bench.PamStack
import HostAccess.Pam.Command
import HostAccess.Settings

/-!
# The command line

Runs the account check for the user and the service of the command line. The PAM stack is the
scripted one; four variables say how it behaves.
-/
namespace HostAccess.CommandLine

/-- A number in a variable; 0 if there is none. -/
def number (name : String) : IO Int := do
  return ((← IO.getEnv name).bind String.toInt?).getD 0

def pamScript : IO Bench.PamScript := do
  return {
    start := Int32.ofInt (← number "FAKE_PAM_START")
    nullHandle := (← number "FAKE_PAM_NULL_HANDLE") != 0
    account := Int32.ofInt (← number "FAKE_PAM_ACCT")
    conversations := (← number "FAKE_PAM_CONV").toNat }

end HostAccess.CommandLine

def main (args : List String) : IO UInt32 := do
  let script ← HostAccess.CommandLine.pamScript
  let threshold := HostAccess.Threshold.ofSetting (← IO.getEnv HostAccess.Variable.logLevel)
  let run := HostAccess.Pam.Command.run script.stack threshold args
  IO.eprint run.stderr
  IO.print run.stdout
  return UInt32.ofNat run.status
