import HostAccess.Environment
import HostAccess.Error
import HostAccess.FileTree
import HostAccess.Http.Exchange
import HostAccess.Journal
import HostAccess.Outcome

/-!
# The world of a run, and what acts on it

Everything that a run can touch is in one value: files, variables, the journal, the exchanges with
the server and the credential that the client holds. What lies beyond, the server and the account
check, is left open: it is a part of the world of any type, and only the network and the checker that
a run is given look at it.

An act changes the world and ends: with a value, with an error, or in a panic. A panic is what a
failed assertion ends in; unlike an error it is no answer to the caller.
-/
namespace HostAccess

inductive Panic where
  | mismatch (user service host : String) (expected observed : Outcome)
  /-- A variable was to get a name or a value that no variable can have. -/
  | unusableVariable
  | stated (text : String)
  deriving DecidableEq, Repr

/-- The panic as it is reported. The words for an unusable variable are not part of the report. -/
def Panic.message : Panic → String
  | .mismatch user service host expected observed =>
    "account check for " ++ user ++ " on " ++ service ++ " from " ++ host ++ ": expected " ++
      expected.render ++ ", observed " ++ observed.render
  | .unusableVariable => "unusable variable"
  | .stated text => text

inductive Ending (α : Type) where
  | done (value : α)
  | failed (error : Error)
  | panicked (panic : Panic)
  deriving DecidableEq, Repr

/-- Everything that a run can touch; `outside` is what lies beyond it. -/
structure World (ν : Type) where
  files : FileTree
  environment : Environment
  journal : Journal
  wire : List Http.Exchange
  credential : Option String
  outside : ν

def Act (ν α : Type) : Type := World ν → Ending α × World ν

namespace Act

variable {ν α β : Type}

def done (a : α) : Act ν α := fun w => (.done a, w)

def fail (e : Error) : Act ν α := fun w => (.failed e, w)

def panic (p : Panic) : Act ν α := fun w => (.panicked p, w)

/-- Goes on with the value of an act, if it ends with one. -/
def andThen (x : Act ν α) (f : α → Act ν β) : Act ν β := fun w =>
  match x w with
  | (.done a, w) => f a w
  | (.failed e, w) => (.failed e, w)
  | (.panicked p, w) => (.panicked p, w)

instance : Monad (Act ν) where
  pure := done
  bind := andThen

@[simp] theorem pure_apply (a : α) (w : World ν) : (pure a : Act ν α) w = (.done a, w) := rfl

@[simp] theorem bind_apply (x : Act ν α) (f : α → Act ν β) (w : World ν) :
    (x >>= f) w = match x w with
      | (.done a, w) => f a w
      | (.failed e, w) => (.failed e, w)
      | (.panicked p, w) => (.panicked p, w) := rfl

def look (f : World ν → α) : Act ν α := fun w => (.done (f w), w)

def change (f : World ν → World ν) : Act ν Unit := fun w => (.done (), f w)

def ofExcept : Except Error α → Act ν α
  | .ok a => done a
  | .error e => fail e

def attempt (x : Act ν α) : Act ν (Except Error α) := fun w =>
  match x w with
  | (.done a, w) => (.done (.ok a), w)
  | (.failed e, w) => (.done (.error e), w)
  | (.panicked p, w) => (.panicked p, w)

def note (component : Component) (level : Level) (message : String) : Act ν Unit :=
  change fun w => { w with journal := w.journal ++ [⟨component.target, level, message⟩] }

/-- Writes a file. A failure may leave a part of it. -/
def writeFile (path : Path) (contents : Bytes) : Act ν Unit := fun w =>
  match w.files.write path contents with
  | .ok files => (.done (), { w with files })
  | .error (cause, files) => (.failed (.io (some path) cause), { w with files })

def removeFile (path : Path) : Act ν Unit := fun w =>
  match w.files.remove path with
  | .ok files => (.done (), { w with files })
  | .error cause => (.failed (.io (some path) cause), w)

def readFile (path : Path) : Act ν Bytes := fun w =>
  match w.files.read path with
  | .ok contents => (.done contents, w)
  | .error cause => (.failed (.io (some path) cause), w)

end Act

/-- What carries a request to the server and back. -/
abbrev Network (ν : Type) := Http.Request → ν → Http.Reception × ν

/-- Sends a request. The exchange is recorded whatever comes of it. -/
def Network.send {ν : Type} (network : Network ν) (request : Http.Request) :
    Act ν Http.Reception := fun w =>
  let (reception, outside) := network request w.outside
  (.done reception, { w with outside, wire := w.wire ++ [⟨request, reception⟩] })

def Network.answer {ν : Type} (network : Network ν) (request : Http.Request) :
    Act ν Http.Response := do
  match ← network.send request with
  | .answered response => return response
  | .unreached | .dropped => Act.fail .transport

def Http.Response.whole {ν : Type} (response : Http.Response) : Act ν Bytes :=
  match response.body with
  | some body => Act.done body
  | none => Act.fail .transport

end HostAccess
