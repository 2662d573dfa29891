import HostAccess.Glob.Pattern
import HostAccess.Pam.Result
import HostAccess.Path
import HostAccess.SystemError

/-!
# Errors

What can go wrong, by its cause. An error is a setup error if it says that the run could not begin,
or that it was asked for something that cannot work: then nothing has been touched yet.
-/
namespace HostAccess

inductive Misconfiguration where
  | unset (name : String)
  /-- The wrapper of the account check is not switched on. -/
  | notInitialized (name : String)
  | holdsNul (name : String)
  | cannotAccess (path : Path)
  | notAbsolute (name : String) (path : Path)
  | notFlag (name value : String)
  /-- A cause that is known by its text only. -/
  | stated (text : String)
  deriving DecidableEq, Repr

def Misconfiguration.message : Misconfiguration → String
  | .unset name => "the " ++ name ++ " variable is unset"
  | .notInitialized name => name ++ " is not initialized"
  | .holdsNul name => name ++ " contains a nul byte"
  | .cannotAccess path => "cannot access " ++ path.display
  | .notAbsolute name path => name ++ " must be an absolute path, got '" ++ path.display ++ "'"
  | .notFlag name value =>
    name ++ " must be one of 1, true, yes, 0, false, no; got '" ++ value ++ "'"
  | .stated text => text

inductive Misuse where
  | serviceName (service : String)
  | noMembers (key : String)
  | groupsAsMembers (key : String)
  /-- A line, counted from 1, that sets nothing and is no comment. -/
  | noSeparator (line : Nat)
  | notText (path : Path)
  | pattern (fault : Glob.Fault)
  /-- A cause that is known by its text only. -/
  | stated (text : String)
  deriving DecidableEq, Repr

def Misuse.message : Misuse → String
  | .serviceName service => "'" ++ service ++ "' is not a usable service name"
  | .noMembers key => "no members given for `" ++ key ++ "`"
  | .groupsAsMembers key => "`" ++ key ++ "` members cannot be given as groups"
  | .noSeparator line => "malformed line " ++ toString line ++ ": no separator"
  | .notText path => path.display ++ " is not valid UTF-8"
  | .pattern fault => fault.message
  | .stated text => text

/-- Why an account check gave no result code. -/
inductive CheckFailure where
  | unexpectedNul
  | notStarted (result : Pam.Result)
  | system (cause : SystemError)
  /-- The program that makes the check ended without an exit code. -/
  | terminated (how : String)
  deriving DecidableEq, Repr

namespace CheckFailure

def message : CheckFailure → String
  | .unexpectedNul => "Unexpected nul byte in input"
  | .notStarted result => "PAM error: " ++ result.render
  | .system cause => "IO error: " ++ cause.message
  | .terminated how => "account check terminated: " ++ how

def hasCause : CheckFailure → Bool
  | .unexpectedNul | .system _ => true
  | .notStarted _ | .terminated _ => false

end CheckFailure

inductive Error where
  | environment (cause : Misconfiguration)
  | remote (method : String) (status : Nat) (message : String)
  /-- No answer came from the server, or only a part of one. -/
  | transport
  | io (path : Option Path) (cause : SystemError)
  | check (failure : CheckFailure)
  | usage (cause : Misuse)
  deriving DecidableEq, Repr

namespace Error

/-- The error as it is reported. What lies behind a transport failure is not part of the report. -/
def message : Error → String
  | .environment cause => "environment misconfigured: " ++ cause.message
  | .remote method status text =>
    "remote command `" ++ method ++ "` failed with status " ++ toString status ++ ": " ++ text
  | .transport => "transport error"
  | .io (some path) cause => "cannot access '" ++ path.display ++ "': " ++ cause.message
  | .io none cause => "IO error: " ++ cause.message
  | .check failure => "PAM error: " ++ failure.message
  | .usage cause => "invalid usage: " ++ cause.message

def isSetup : Error → Bool
  | .environment _ | .usage _ => true
  | .remote .. | .transport | .io .. | .check _ => false

end Error

end HostAccess
