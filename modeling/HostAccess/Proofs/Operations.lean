import HostAccess.Certificate
import HostAccess.Proofs.Fixtures
import HostAccess.Proofs.Isolation
import HostAccess.Proofs.SessionProtocol

/-!
# Everything that a run can do

A run loads settings, reads configurations, connects to the server, works on its objects, creates
fixtures and undoes them, fetches certificates, and puts questions to the harness. What it holds
between its operations is an address that it has connected to, fixtures, and guarded files.
-/
namespace HostAccess

variable {ν : Type}

/-- What a run is set up with. -/
structure Rig (ν : Type) where
  settings : Settings
  network : Network ν
  checker : Checker ν

namespace Rig

def harness (r : Rig ν) : Harness ν := Harness.ofSettings r.settings r.checker

def client (r : Rig ν) (url : String) : Client ν := ⟨r.settings.server, url, r.network⟩

def withChecker (r : Rig ν) (checker : Checker ν) : Rig ν := { r with checker }

end Rig

/-- What a run holds. The fixtures under a number are empty until something is created there. -/
structure Held where
  connected : Option String
  fixtures : Nat → Fixtures
  guards : List Guard

def Held.nothing : Held := ⟨none, fun _ => Fixtures.empty, []⟩

/-- What an operation answers, if it ends with a value. -/
inductive Answer where
  | nothing
  | settings (s : Settings)
  | config (c : ModuleConfig)
  | reply (r : Reply)
  | object (o : Object)
  | code (c : Int32)
  | outcome (o : Outcome)
  | paths (found : List Path)

/-- What can be done to objects of the directory, on their own or as members. -/
inductive Object.Operation where
  | add (kind : Kind) (name : String)
  | remove (kind : Kind) (name : String)
  | addMembers (membership : Membership) (name : String) (members : Members)
  | enable (rule : String)
  | disable (rule : String)

inductive Operation where
  | load (lookup : Settings.Lookup)
  | loadEnvironment
  | parse (text : String)
  /-- At an address, or else at the server's own. -/
  | connect (url : Option String)
  | session (op : Client.Operation)
  | object (op : Object.Operation)
  | fixture (slot : Nat) (op : Fixtures.Operation)
  | teardown (slot : Nat)
  | dropFixtures (slot : Nat)
  | fetch (path : Path)
  | fetchFrom (url : String) (path : Path)
  | create (path : Path) (contents : Bytes)
  | release (index : Nat)
  | dropGuard (index : Nat)
  | ask (question : Harness.Question)
  | leftovers

/-! ## What operations do -/

def Act.loading (load : World ν → Except Misconfiguration Settings) : Act ν Settings := fun w =>
  match load w with
  | .ok settings => (.done settings, w)
  | .error cause => (.failed (.environment cause), w)

def Act.parsing (text : String) : Act ν ModuleConfig :=
  Act.ofExcept ((ModuleConfig.parse text).mapError Error.usage)

def Client.Operation.act (c : Client ν) : Client.Operation → Act ν Answer
  | .authenticate => do
    c.authenticate
    return .nothing
  | .reauthenticate => do
    c.reauthenticate
    return .nothing
  | .call m => return .reply (← c.call m.method m.args m.options)
  | .command m => do
    c.command m.method m.args m.options
    return .nothing

def Object.Operation.act (c : Client ν) : Object.Operation → Act ν Unit
  | .add kind name => (Object.named c.identity kind name).add c
  | .remove kind name => (Object.named c.identity kind name).remove c
  | .addMembers membership name members => Object.addMembers c membership name members
  | .enable rule => Object.enable c rule
  | .disable rule => Object.disable c rule

def Fixtures.Operation.act (c : Client ν) (f : Fixtures) : Fixtures.Operation → Act ν (Answer × Fixtures)
  | .create kind name => do
    let (object, f) ← f.create c kind name
    return (.object object, f)
  | .disableRule name => return (.nothing, ← f.disableRule c name)

def Harness.Question.answer : (q : Harness.Question) → q.Value → Answer
  | .check .., code => .code code
  | .returns .., outcome => .outcome outcome
  | .assertReturns .., _ | .assertAllowed .., _ | .assertDenied .., _ => .nothing

/-- Connects to the server. The client is a new one and holds no credential. -/
def Rig.connect (r : Rig ν) (url : Option String) : Act ν String := do
  let c ← match url with
    | some url => Client.connectAt r.network r.settings.server url
    | none => Client.connect r.network r.settings.server
  Act.change fun w => { w with credential := none }
  return c.baseUrl

namespace Operation

/-- Runs an act of the client. There is none before a connection is made. -/
def withClient (r : Rig ν) (held : Held) (x : Client ν → Act ν (Answer × Held)) :
    Act ν (Answer × Held) :=
  match held.connected with
  | some url => x (r.client url)
  | none => return (.nothing, held)

/-- Runs an act on a guard that is held, and holds it no longer. -/
def withGuard (held : Held) (index : Nat) (x : Guard → Act ν Unit) : Act ν (Answer × Held) :=
  match held.guards[index]? with
  | some guard => do
    x guard
    return (.nothing, { held with guards := held.guards.eraseIdx index })
  | none => return (.nothing, held)

/-- What an operation does, with what is held after it if it ends with a value. -/
def act (r : Rig ν) (held : Held) : Operation → Act ν (Answer × Held)
  | .load lookup => return (.settings (← Act.loading fun w => Settings.load w.files lookup), held)
  | .loadEnvironment =>
    return (.settings (← Act.loading fun w => Settings.loadFrom w.files w.environment), held)
  | .parse text => return (.config (← Act.parsing text), held)
  | .connect url => return (.nothing, { held with connected := some (← r.connect url) })
  | .session op => withClient r held fun c => return (← op.act c, held)
  | .object op => withClient r held fun c => do
    op.act c
    return (.nothing, held)
  | .fixture slot op => withClient r held fun c => do
    let (answer, f) ← op.act c (held.fixtures slot)
    return (answer, { held with fixtures := Function.update held.fixtures slot f })
  | .teardown slot => withClient r held fun c => do
    (held.fixtures slot).teardown c
    return (.nothing, { held with fixtures := Function.update held.fixtures slot Fixtures.empty })
  | .dropFixtures slot => withClient r held fun c => do
    (held.fixtures slot).drop c
    return (.nothing, { held with fixtures := Function.update held.fixtures slot Fixtures.empty })
  | .fetch path => do
    let guard ← Certificate.fetch r.network r.settings.server path
    return (.nothing, { held with guards := held.guards ++ [guard] })
  | .fetchFrom url path => do
    let guard ← Certificate.fetchFrom r.network url path
    return (.nothing, { held with guards := held.guards ++ [guard] })
  | .create path contents => do
    let guard ← Guard.create .pam path contents
    return (.nothing, { held with guards := held.guards ++ [guard] })
  | .release index => withGuard held index Guard.release
  | .dropGuard index => withGuard held index Guard.drop
  | .ask question => return (question.answer (← question.ask r.harness), held)
  | .leftovers => return (.paths (← r.harness.leftovers), held)

theorem act_ask (r : Rig ν) (held : Held) (question : Harness.Question) (w : World ν) :
    act r held (.ask question) w =
      (question.ask r.harness >>= fun value => pure (question.answer value, held)) w := rfl

/-- What is held after an operation that does not end with a value. What was to be undone or removed
is not held any longer. -/
def spent (held : Held) : Operation → Held
  | .teardown slot | .dropFixtures slot =>
    { held with fixtures := Function.update held.fixtures slot Fixtures.empty }
  | .release index | .dropGuard index => { held with guards := held.guards.eraseIdx index }
  | .load _ | .loadEnvironment | .parse _ | .connect _ | .session _ | .object _ | .fixture .. | .fetch _
  | .fetchFrom .. | .create .. | .ask _ | .leftovers => held

end Operation

/-- The state of a run between its operations. -/
structure Stage (ν : Type) where
  held : Held
  world : World ν

def Operation.perform (r : Rig ν) (op : Operation) (s : Stage ν) : Ending Answer × Stage ν :=
  match op.act r s.held s.world with
  | (.done (answer, held), w) => (.done answer, ⟨held, w⟩)
  | (.failed e, w) => (.failed e, ⟨op.spent s.held, w⟩)
  | (.panicked p, w) => (.panicked p, ⟨op.spent s.held, w⟩)

/-- Does operations in order, however each of them ends. -/
def Rig.run (r : Rig ν) (ops : List Operation) (s : Stage ν) : Stage ν :=
  ops.foldl (fun s op => (op.perform r s).2) s

def Settings.forTests (configPath : Path) : Settings where
  serviceDir := Path.ofString "/pam.d"
  modulePath := Path.ofString "/pam_hbac.so"
  server := .forTests
  configPath := some configPath
  baseDn := "dc=ipa,dc=test"
  defaultHost := "client"
  testClient := Path.ofString Settings.defaultTestClient

/-- A rig whose server cannot be reached. -/
def Rig.forTests (configPath : Path) (checker : Checker Unit) : Rig Unit :=
  ⟨.forTests configPath, fun _ outside => (.unreached, outside), checker⟩

end HostAccess
