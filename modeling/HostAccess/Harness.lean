import HostAccess.Glob.Search
import HostAccess.Guard
import HostAccess.Settings

/-!
# The account check

A check asks the account module whether a user may use a service on a host. The module finds the host
in a variable, the description of the service in a file, and its own configuration in another. All
three are put in place for the check alone, and are gone, or are what they were, when it has ended:
with a result code, with an error, or in a panic.
-/
namespace HostAccess

/-- What a checker answers. A denial is a code like any other. -/
inductive Verdict where
  | code (c : Int32)
  | failure (f : CheckFailure)
  | panic (text : String)
  deriving DecidableEq, Repr

/-- What runs the account module for a user and a service. It may do anything to the world. -/
abbrev Checker (ν : Type) := String → String → World ν → Verdict × World ν

/-- Asks a checker. A failure is an answer, a panic is not. -/
def Checker.ask {ν : Type} (checker : Checker ν) (user service : String) :
    Act ν (Except CheckFailure Int32) := fun w =>
  match checker user service w with
  | (.code c, w) => (.done (.ok c), w)
  | (.failure f, w) => (.done (.error f), w)
  | (.panic text, w) => (.panicked (.stated text), w)

structure Harness (ν : Type) where
  serviceDir : Path
  modulePath : Path
  configPath : Option Path
  /-- What the account module is told about the directory. -/
  directory : ModuleConfig
  server : Identity
  /-- The host that checks are made for unless another is asked for, by its full name. -/
  defaultHost : String
  checker : Checker ν

namespace Harness

variable {ν : Type}

def ofSettings (s : Settings) (checker : Checker ν) : Harness ν where
  serviceDir := s.serviceDir
  modulePath := s.modulePath
  configPath := s.configPath
  directory := s.directory
  server := s.server
  defaultHost := s.server.qualify s.defaultHost
  checker

def effectiveHost (h : Harness ν) (host : Option String) : String :=
  match host with
  | some host => h.server.qualify host
  | none => h.defaultHost

def serviceFile (h : Harness ν) (service : String) : Path :=
  h.serviceDir.join (Path.ofString service)

/-- Whether a service can go by this name: it is the name of a file. -/
def isServiceName (service : String) : Bool := !service.isEmpty && !service.contains '/'

def configText (h : Harness ν) (host : String) : String := (h.directory.withHost host).render

def serviceText (h : Harness ν) : String := ModuleConfig.serviceLine h.modulePath h.configPath

/-- Runs an act while the configuration for a host stands, if the account module is configured by a
file. -/
def underConfig {α : Type} (h : Harness ν) (host : String) (x : Act ν α) :
    Act ν (α × Except Error Unit) :=
  match h.configPath with
  | some path => Guard.around .pam path (Utf8.encode (h.configText host)) x
  | none => do return (← x, .ok ())

def underService (h : Harness ν) (user service : String) :
    Act ν (Except CheckFailure Int32 × Except Error Unit) :=
  Guard.around .pam (h.serviceFile service) (Utf8.encode h.serviceText) do
    Act.note .pam .debug ("wrote " ++ (h.serviceFile service).display)
    h.checker.ask user service

/-- The result code for a user and a service, as seen from a host. What the checker answers counts
before a file that could not be removed. -/
def check (h : Harness ν) (user service : String) (host : Option String) : Act ν Int32 := do
  if !isServiceName service then Act.fail (.usage (.serviceName service))
  else
    let host := h.effectiveHost host
    Override.around (Utf8.encode Variable.hostName) (Utf8.encode host) do
      let ((answer, serviceRemoved), configRemoved) ←
        h.underConfig host (h.underService user service)
      let code ← Act.ofExcept (answer.mapError Error.check)
      Act.ofExcept serviceRemoved
      Act.ofExcept configRemoved
      Act.note .pam .info ("account check for " ++ user ++ " on " ++ service ++ " from " ++ host ++
        ": " ++ toString code.toInt)
      return code

def certificateExtension : Bytes := Utf8.encode "crt"

def leftoverPattern (h : Harness ν) : Path := h.serviceDir.join (Path.ofString "*")

/-- What is left in the service folder, other than certificates. -/
def leftovers (h : Harness ν) : Act ν (List Path) := fun w =>
  match Utf8.decode? h.leftoverPattern with
  | none => (.failed (.usage (.notText h.leftoverPattern)), w)
  | some pattern =>
    match Glob.search w.files pattern with
    | .error fault => (.failed (.usage (.pattern fault)), w)
    | .ok found => (.done (found.filter fun p => p.extension? != some certificateExtension), w)

end Harness

end HostAccess
