import HostAccess.Bench.PamStack
import HostAccess.Bench.Script
import HostAccess.Bench.Server
import HostAccess.Certificate
import HostAccess.Fixtures
import HostAccess.Scenario
import HostAccess.Shell.Launch

/-!
# Sessions on the bench

A session is a list of steps, each an operation of the library or of its surroundings, with what it
leaves held under a name: fixtures, certificates, files, and at most one overridden variable. What is
still held at the end is dropped. After each step it is told what came of it and what it made visible.
-/
namespace HostAccess.Bench

structure Outside where
  server : Server
  script : Script

abbrev BenchWorld := World Outside

def network : Network Outside := fun request outside =>
  let (reception, server) := outside.server.answer request
  (reception, { outside with server })

def scriptedChecker (s : Settings) : Checker Outside := fun user service w =>
  let hostName := w.environment.get? (Utf8.encode Variable.hostName)
  let sighting : Sighting := {
    user
    service
    hostName
    serviceFile := (w.files.read (s.serviceDir.join (Path.ofString service))).toOption
    configFile := s.configPath.bind fun path => (w.files.read path).toOption }
  let script := w.outside.script
  let script := { script with seen := script.seen ++ [sighting] }
  match script.answers with
  | [] =>
    (.code (Bench.tableCode script.table user service (hostName.bind Utf8.decode?)),
      { w with outside := { w.outside with script } })
  | answer :: rest =>
    let w := { w with outside := { w.outside with script := { script with answers := rest } } }
    (answer.verdict, answer.meddling.foldl Meddling.perform w)

inductive CheckerChoice where
  | scripted
  | program
  | pam (script : PamScript)

def CheckerChoice.checker (s : Settings) : CheckerChoice → Checker Outside
  | .scripted => scriptedChecker s
  | .program => ProgramCheck.checker Shell.launch s.testClient
  | .pam script => Pam.checker script.stack

inductive MemberChoice where
  | direct (name : String)
  | group (name : String)

def members (choices : List MemberChoice) : Members :=
  choices.foldl (fun m choice => match choice with
    | .direct name => m.andDirect name
    | .group name => m.andGroup name) Members.empty

abbrev Slot := String

inductive Step where
  | authenticate
  | reauthenticate
  | call (method : String) (args : List Json.Value) (options : Json.Members)
  | command (method : String) (args : List Json.Value) (options : Json.Members)
  | identity
  | nameObject (kind : Kind) (name : String)
  | addObject (kind : Kind) (name : String)
  | removeObject (kind : Kind) (name : String)
  | addMembers (membership : Membership) (name : String) (choices : List MemberChoice)
  | enableRule (name : String)
  | disableRule (name : String)
  | compareMembers (first second : List MemberChoice)
  | newFixtures (slot : Slot)
  | addFixture (slot : Slot) (kind : Kind) (name : String)
  | disableFixture (slot : Slot) (name : String)
  | teardown (slot : Slot)
  | dropFixtures (slot : Slot)
  | panicFixtures (slot : Slot) (text : String)
  | fetchFrom (slot : Slot) (url : String) (path : Path)
  | fetch (slot : Slot) (path : Path)
  | releaseCertificate (slot : Slot)
  | dropCertificate (slot : Slot)
  | createFile (slot : Slot) (path : Path) (contents : Bytes)
  | removeFile (slot : Slot)
  | dropFile (slot : Slot)
  | setVariable (name value : Bytes)
  | unsetVariable (name : Bytes)
  | getVariable (name : Bytes)
  | overrideVariable (name value : Bytes)
  | restoreVariable (name : Bytes)
  | check (user service : String) (host : Option String)
  | leftovers
  | defaultHost
  | effectiveHost (host : Option String)
  | serviceFile (service : String)
  | returns (user service : String) (host : Option String)
  | assertReturns (user service : String) (expected : Outcome) (host : Option String)
  | assertAllowed (user service : String) (host : Option String)
  | assertDenied (user service : String) (host : Option String)
  | runProgram (program : Path) (user service : String)
  | readPath (path : Path)
  | listPath (path : Path)
  | writePath (path : Path) (contents : Bytes) (executable : Bool)
  | removePath (path : Path)
  | removeTree (path : Path)

inductive Refusal where
  | noClient
  | noHarness
  | noFixtures
  | noCertificate
  | noFile
  | overrideActive
  deriving DecidableEq, Repr

def Refusal.message : Refusal → String
  | .noClient => "no client"
  | .noHarness => "no harness"
  | .noFixtures => "no fixtures"
  | .noCertificate => "no cert"
  | .noFile => "no file"
  | .overrideActive => "an override is active"

inductive Finding where
  | nothing
  | done
  | refused (reason : Refusal)
  | failed (error : Error)
  | panicked (panic : Panic)
  | reply (reply : Reply) (check : Except Error Unit)
  | server (identity : Identity)
  | object (object : Object)
  | comparison (empty equal : Bool)
  | file (path : Path)
  | overridden (previous now : Option Bytes)
  | variable (now : Option Bytes)
  | code (code : Int32)
  | paths (paths : List Path)
  | text (text : String)
  | path (path : Path)
  | outcome (outcome : Outcome)
  | program (path : Path) (answer : Except CheckFailure Int32)
  | contents (contents : Option Bytes)
  | names (names : List Bytes)
  | flag (flag : Bool)

structure Held where
  fixtures : List (Slot × Fixtures)
  certificates : List (Slot × Guard)
  files : List (Slot × Guard)
  override : Option Override

def Held.empty : Held := ⟨[], [], [], none⟩

/-- Puts a value under a name, in the order of the names. -/
def store {α : Type} (slot : Slot) (a : α) : List (Slot × α) → List (Slot × α)
  | [] => [(slot, a)]
  | (s, b) :: rest =>
    if slot < s then (slot, a) :: (s, b) :: rest
    else if slot = s then (slot, a) :: rest
    else (s, b) :: store slot a rest

def discard {α : Type} (slot : Slot) (held : List (Slot × α)) : List (Slot × α) :=
  held.filter (·.1 != slot)

structure Setup where
  client : Option (Client Outside)
  harness : Option (Harness Outside)

/-- What comes of an act whose value has a finding of its own. -/
def Finding.ofEnding {α : Type} (f : α → Finding) : Ending α → Finding
  | .done a => f a
  | .failed e => .failed e
  | .panicked p => .panicked p

/-- What a step leads to: a finding, what is held after it, and the world after it. -/
abbrev Progress := Finding × Held × BenchWorld

def perform {α : Type} (x : Act Outside α) (f : α → Finding) (held : Held) (w : BenchWorld) :
    Progress :=
  let (ending, w) := x w
  (Finding.ofEnding f ending, held, w)

/-- Runs an act on fixtures that are held. If it ends with a value, the fixtures that it gives are
held in their place. -/
def onFixtures {α : Type} (slot : Slot) (x : Fixtures → Act Outside (α × Fixtures))
    (f : α → Finding) (held : Held) (w : BenchWorld) : Progress :=
  match held.fixtures.lookup slot with
  | none => (.refused .noFixtures, held, w)
  | some fixtures =>
    match x fixtures w with
    | (.done (a, fixtures), w) =>
      (f a, { held with fixtures := store slot fixtures held.fixtures }, w)
    | (.failed e, w) => (.failed e, held, w)
    | (.panicked p, w) => (.panicked p, held, w)

/-- Runs an act on fixtures that are held, and holds them no longer. -/
def endFixtures (slot : Slot) (x : Fixtures → Act Outside Unit) (finding : Finding) (held : Held)
    (w : BenchWorld) : Progress :=
  match held.fixtures.lookup slot with
  | none => (.refused .noFixtures, held, w)
  | some fixtures =>
    let (ending, w) := x fixtures w
    (Finding.ofEnding (fun _ => finding) ending,
      { held with fixtures := discard slot held.fixtures }, w)

def dropGuard (slot : Slot) (guards : List (Slot × Guard)) (w : BenchWorld) : BenchWorld :=
  match guards.lookup slot with
  | some guard => (guard.drop w).2
  | none => w

/-- Runs an act that gives a guard. A guard that was held under the name is dropped after that. -/
def hold (slot : Slot) (x : Act Outside Guard) (guards : List (Slot × Guard))
    (keep : List (Slot × Guard) → Held) (held : Held) (w : BenchWorld) : Progress :=
  match x w with
  | (.done guard, w) =>
    (.file guard.path, keep (store slot guard guards), dropGuard slot guards w)
  | (.failed e, w) => (.failed e, held, w)
  | (.panicked p, w) => (.panicked p, held, w)

/-- Runs an act on a guard that is held, and holds it no longer. -/
def letGo (slot : Slot) (x : Guard → Act Outside Unit) (missing : Refusal)
    (guards : List (Slot × Guard)) (keep : List (Slot × Guard) → Held) (held : Held)
    (w : BenchWorld) : Progress :=
  match guards.lookup slot with
  | none => (.refused missing, held, w)
  | some guard =>
    let (ending, w) := x guard w
    (Finding.ofEnding (fun _ => .done) ending, keep (discard slot guards), w)

def valueOf? (w : BenchWorld) (name : Bytes) : Option Bytes := w.environment.get? name

def changeFiles (f : FileTree → Option FileTree) (held : Held) (w : BenchWorld) : Progress :=
  match f w.files with
  | some files => (.flag true, held, { w with files })
  | none => (.flag false, held, w)

def withClient (setup : Setup) (f : Client Outside → Held → BenchWorld → Progress) (held : Held)
    (w : BenchWorld) : Progress :=
  match setup.client with
  | some client => f client held w
  | none => (.refused .noClient, held, w)

/-- Runs a step that needs a harness, while no variable is overridden. -/
def withHarness (setup : Setup) (f : Harness Outside → Held → BenchWorld → Progress) (held : Held)
    (w : BenchWorld) : Progress :=
  if held.override.isSome then (.refused .overrideActive, held, w)
  else match setup.harness with
    | some harness => f harness held w
    | none => (.refused .noHarness, held, w)

def programFinding (program : Path) : Ending (Except CheckFailure Int32) → Finding :=
  Finding.ofEnding (.program program)

def Step.take (setup : Setup) : Step → Held → BenchWorld → Progress
  | .authenticate => withClient setup fun c => perform c.authenticate fun _ => .done
  | .reauthenticate => withClient setup fun c => perform c.reauthenticate fun _ => .done
  | .call method args options => withClient setup fun c =>
    perform (c.call method args options) fun reply => .reply reply (reply.check method)
  | .command method args options => withClient setup fun c =>
    perform (c.command method args options) fun _ => .done
  | .identity => withClient setup fun c held w => (.server c.identity, held, w)
  | .nameObject kind name => withClient setup fun c held w =>
    (.object (Object.named c.identity kind name), held, w)
  | .addObject kind name => withClient setup fun c =>
    perform ((Object.named c.identity kind name).add c) fun _ => .done
  | .removeObject kind name => withClient setup fun c =>
    perform ((Object.named c.identity kind name).remove c) fun _ => .done
  | .addMembers membership name choices => withClient setup fun c =>
    perform (Object.addMembers c membership name (members choices)) fun _ => .done
  | .enableRule name => withClient setup fun c => perform (Object.enable c name) fun _ => .done
  | .disableRule name => withClient setup fun c => perform (Object.disable c name) fun _ => .done
  | .compareMembers first second => fun held w =>
    (.comparison (members first).isEmpty (members first == members second), held, w)
  | .newFixtures slot => withClient setup fun c held w =>
    let w := match held.fixtures.lookup slot with
      | some fixtures => (fixtures.drop c w).2
      | none => w
    (.done, { held with fixtures := store slot Fixtures.empty held.fixtures }, w)
  | .addFixture slot kind name => withClient setup fun c =>
    onFixtures slot (·.create c kind name) .object
  | .disableFixture slot name => withClient setup fun c =>
    onFixtures slot (fun f => do return ((), ← f.disableRule c name)) fun _ => .done
  | .teardown slot => withClient setup fun c => endFixtures slot (·.teardown c) .done
  | .dropFixtures slot => withClient setup fun c => endFixtures slot (·.drop c) .done
  | .panicFixtures slot text => withClient setup fun c =>
    endFixtures slot (·.drop c) (.panicked (.stated text))
  | .fetchFrom slot url path => fun held =>
    hold slot (Certificate.fetchFrom network url path) held.certificates
      (fun certificates => { held with certificates }) held
  | .fetch slot path => withClient setup fun c held =>
    hold slot (Certificate.fetch network c.identity path) held.certificates
      (fun certificates => { held with certificates }) held
  | .releaseCertificate slot => fun held =>
    letGo slot Guard.release .noCertificate held.certificates
      (fun certificates => { held with certificates }) held
  | .dropCertificate slot => fun held =>
    letGo slot Guard.drop .noCertificate held.certificates
      (fun certificates => { held with certificates }) held
  | .createFile slot path contents => fun held =>
    hold slot (Guard.create .pam path contents) held.files
      (fun files => { held with files }) held
  | .removeFile slot => fun held =>
    letGo slot Guard.release .noFile held.files (fun files => { held with files }) held
  | .dropFile slot => fun held =>
    letGo slot Guard.drop .noFile held.files (fun files => { held with files }) held
  | .setVariable name value => fun held w =>
    if Environment.accepts name value then
      let w := { w with environment := w.environment.set name value }
      (.variable (valueOf? w name), held, w)
    else (.panicked .unusableVariable, held, w)
  | .unsetVariable name => fun held w =>
    if Environment.isName name then
      let w := { w with environment := w.environment.unset name }
      (.variable (valueOf? w name), held, w)
    else (.panicked .unusableVariable, held, w)
  | .getVariable name => fun held w => (.variable (valueOf? w name), held, w)
  | .overrideVariable name value => fun held w =>
    if held.override.isSome then (.refused .overrideActive, held, w)
    else match Override.begin name value w with
      | (.done override, w) =>
        (.overridden override.previous (valueOf? w name),
          { held with override := some override }, w)
      | (.failed e, w) => (.failed e, held, w)
      | (.panicked p, w) => (.panicked p, held, w)
  | .restoreVariable name => fun held w =>
    let w := match held.override with
      | some override => override.restore w
      | none => w
    (.variable (valueOf? w name), { held with override := none }, w)
  | .check user service host => withHarness setup fun h =>
    perform (h.check user service host) .code
  | .leftovers => withHarness setup fun h => perform h.leftovers .paths
  | .defaultHost => withHarness setup fun h held w => (.text h.defaultHost, held, w)
  | .effectiveHost host => withHarness setup fun h held w => (.text (h.effectiveHost host), held, w)
  | .serviceFile service => withHarness setup fun h held w =>
    (.path (h.serviceFile service), held, w)
  | .returns user service host => withHarness setup fun h =>
    perform (Scenario.returns h user service host) .outcome
  | .assertReturns user service expected host => withHarness setup fun h =>
    perform (Scenario.assertReturns h user service expected host) fun _ => .done
  | .assertAllowed user service host => withHarness setup fun h =>
    perform (Scenario.assertAllowed h user service host) fun _ => .done
  | .assertDenied user service host => withHarness setup fun h =>
    perform (Scenario.assertDenied h user service host) fun _ => .done
  | .runProgram program user service => fun held w =>
    let (ending, w) := (ProgramCheck.checker Shell.launch program).ask user service w
    (programFinding program ending, held, w)
  | .readPath path => fun held w => (.contents (w.files.read path).toOption, held, w)
  | .listPath path => fun held w => (.names (w.files.list path), held, w)
  | .writePath path contents executable =>
    changeFiles fun t => lay t path contents executable
  | .removePath path => changeFiles fun t => (t.remove path).toOption
  | .removeTree path => changeFiles fun t => Bench.removeTree t path

/-- Drops everything that is held: fixtures, certificates and files in the order of their names, and
then the override. -/
def Held.dropAll (setup : Setup) (held : Held) (w : BenchWorld) : BenchWorld :=
  let w := match setup.client with
    | some c => held.fixtures.foldl (fun w (_, fixtures) => (fixtures.drop c w).2) w
    | none => w
  let w := held.certificates.foldl (fun w (_, guard) => (guard.drop w).2) w
  let w := held.files.foldl (fun w (_, guard) => (guard.drop w).2) w
  match held.override with
  | some override => override.restore w
  | none => w

/-- What a step made visible: requests that reached the server, and what the checker was shown. -/
structure Report where
  finding : Finding
  requests : List Http.Request
  seen : List Sighting
  authenticated : Option Bool
  hostName : Option (Option Bytes)

def report (setup : Setup) (finding : Finding) (before after : BenchWorld) : Report where
  finding
  requests := ((after.wire.drop before.wire.length).filter Http.Exchange.reached).map (·.request)
  seen := after.outside.script.seen.drop before.outside.script.seen.length
  authenticated := setup.client.map fun _ => after.credential.isSome
  hostName := setup.harness.map fun _ => valueOf? after (Utf8.encode Variable.hostName)

def takeAll (setup : Setup) : List Step → Held → BenchWorld → List Report × Held × BenchWorld
  | [], held, w => ([], held, w)
  | step :: rest, held, w =>
    let (finding, held, after) := step.take setup held w
    let (reports, held, last) := takeAll setup rest held after
    (report setup finding w after :: reports, held, last)

/-- Takes all steps and drops what is still held after them. Gives the reports of the steps, the
report of the end, and the world after it. -/
def play (setup : Setup) (steps : List Step) (w : BenchWorld) :
    List Report × Report × BenchWorld :=
  let (reports, held, w) := takeAll setup steps Held.empty w
  let after := held.dropAll setup w
  (reports, report setup .nothing w after, after)

end HostAccess.Bench
