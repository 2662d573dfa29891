import HostAccess.Proofs.Operations
import HostAccess.Proofs.Veil

/-!
# Acts that a password makes no difference to

Two worlds are alike if nothing tells them apart but the bodies of the forms that were sent and, under
a veil, one file. Two acts agree if from alike worlds they end the same and leave alike worlds. Acts
that do not look at forms agree with themselves; a login agrees with a login under another password,
as long as the server does not tell forms apart; and what is built of acts that agree agrees. Acts may
need something of the files in order to agree, if they see to it that it stays so.
-/
namespace HostAccess

variable {ν α β : Type} {safe : FileTree → Prop}

/-! ## Requests but for their forms -/

namespace Http

def Request.isForm (r : Request) : Bool :=
  r.header? "content-type" == some "application/x-www-form-urlencoded"

/-- A request without what a form says. -/
def Request.masked (r : Request) : Request := if r.isForm then { r with body := [] } else r

def Exchange.masked (e : Exchange) : Exchange := { e with request := e.request.masked }

end Http

/-- Whether what comes of a request does not depend on what a form says. -/
def Network.IsDeaf (network : Network ν) : Prop :=
  ∀ (a b : Http.Request) outside, a.masked = b.masked → network a outside = network b outside

/-! ## Worlds that are alike -/

structure World.Alike (hidden : Option Location) (w v : World ν) : Prop where
  files : v.files.under hidden = w.files.under hidden
  environment : v.environment = w.environment
  journal : v.journal = w.journal
  wire : v.wire.map Http.Exchange.masked = w.wire.map Http.Exchange.masked
  credential : v.credential = w.credential
  outside : v.outside = w.outside

theorem World.Alike.refl (hidden : Option Location) (w : World ν) : World.Alike hidden w w :=
  ⟨rfl, rfl, rfl, rfl, rfl, rfl⟩

/-- Alike worlds are alike whatever files both of them get. -/
theorem World.Alike.withFiles {hidden : Option Location} {w v : World ν}
    (alike : World.Alike hidden w v) (t : FileTree) :
    World.Alike hidden { w with files := t } { v with files := t } :=
  ⟨rfl, alike.environment, alike.journal, alike.wire, alike.credential, alike.outside⟩

/-! ## Acts that agree -/

namespace Act

/-- Whether two acts end the same and leave alike worlds, from worlds that are alike and whose files
are safe, as they are again after the acts. -/
def Agree (safe : FileTree → Prop) (x y : Act ν α) : Prop :=
  ∀ w v, World.Alike none w v → safe w.files →
    (y v).1 = (x w).1 ∧ World.Alike none (x w).2 (y v).2 ∧ safe (x w).2.files

namespace Agree

theorem done (a : α) : Agree safe (pure a : Act ν α) (pure a) :=
  fun _ _ alike files => ⟨rfl, alike, files⟩

theorem fail (e : Error) : Agree safe (Act.fail e : Act ν α) (Act.fail e) :=
  fun _ _ alike files => ⟨rfl, alike, files⟩

theorem ofExcept (x : Except Error α) : Agree safe (Act.ofExcept x : Act ν α) (Act.ofExcept x) := by
  cases x with
  | ok a => exact done a
  | error e => exact fail e

theorem note (component : Component) (level : Level) (message : String) :
    Agree safe (Act.note component level message : Act ν Unit) (Act.note component level message) := by
  intro w v alike files
  refine ⟨rfl, ⟨alike.files, alike.environment, ?_, alike.wire, alike.credential, alike.outside⟩, files⟩
  simp only [Act.note, Act.change]
  rw [alike.journal]

theorem setCredential (credential : Option String) :
    Agree safe (Act.change fun w : World ν => { w with credential })
      (Act.change fun w => { w with credential }) :=
  fun _ _ alike files =>
    ⟨rfl, ⟨alike.files, alike.environment, alike.journal, alike.wire, rfl, alike.outside⟩, files⟩

theorem look {f : World ν → α} (hf : ∀ w v, World.Alike none w v → f v = f w) :
    Agree safe (Act.look f) (Act.look f) :=
  fun w v alike files => ⟨congrArg Ending.done (hf w v alike), alike, files⟩

/-- Acts that agree may go on, from each value, in ways that agree. -/
theorem bind {x y : Act ν α} {f g : α → Act ν β} (hxy : Agree safe x y)
    (hfg : ∀ a, Agree safe (f a) (g a)) : Agree safe (x >>= f) (y >>= g) := by
  intro w v alike files
  obtain ⟨ending, after, files⟩ := hxy w v alike files
  rw [Act.bind_apply, Act.bind_apply]
  generalize x w = ran at ending after files
  generalize y v = ran' at ending after
  obtain ⟨e, w'⟩ := ran
  obtain ⟨e', v'⟩ := ran'
  obtain rfl : e' = e := ending
  cases e' with
  | done a => exact hfg a w' v' after files
  | failed cause => exact ⟨rfl, after, files⟩
  | panicked p => exact ⟨rfl, after, files⟩

theorem attempt {x y : Act ν α} (hxy : Agree safe x y) : Agree safe (Act.attempt x) (Act.attempt y) := by
  intro w v alike files
  obtain ⟨ending, after, files⟩ := hxy w v alike files
  unfold Act.attempt
  generalize x w = ran at ending after files
  generalize y v = ran' at ending after
  obtain ⟨e, w'⟩ := ran
  obtain ⟨e', v'⟩ := ran'
  obtain rfl : e' = e := ending
  cases e' with
  | done a => exact ⟨rfl, after, files⟩
  | failed cause => exact ⟨rfl, after, files⟩
  | panicked p => exact ⟨rfl, after, files⟩

theorem writeFile (lasts : FileTree.Lasts safe) (path : Path) (contents : Bytes) :
    Agree safe (Act.writeFile path contents : Act ν Unit) (Act.writeFile path contents) := by
  intro w v alike files
  have hfiles : v.files = w.files := alike.files
  have left := lasts.write w.files path contents files
  unfold Act.writeFile
  rw [hfiles]
  cases hw : w.files.write path contents with
  | ok t =>
    rw [hw] at left
    exact ⟨rfl, alike.withFiles _, left⟩
  | error failure =>
    rw [hw] at left
    exact ⟨rfl, alike.withFiles _, left⟩

theorem removeFile (lasts : FileTree.Lasts safe) (path : Path) :
    Agree safe (Act.removeFile path : Act ν Unit) (Act.removeFile path) := by
  intro w v alike files
  have hfiles : v.files = w.files := alike.files
  have left := lasts.discard w.files path files
  unfold Act.removeFile
  rw [hfiles]
  cases hr : w.files.remove path with
  | error cause => exact ⟨rfl, alike, files⟩
  | ok t =>
    rw [FileTree.discard_of_remove hr] at left
    exact ⟨rfl, alike.withFiles _, left⟩

theorem readFile (path : Path) : Agree safe (Act.readFile path : Act ν Bytes) (Act.readFile path) := by
  intro w v alike files
  have hfiles : v.files = w.files := alike.files
  unfold Act.readFile
  rw [hfiles]
  cases w.files.read path with
  | error cause => exact ⟨rfl, alike, files⟩
  | ok contents => exact ⟨rfl, alike, files⟩

theorem loading {load : World ν → Except Misconfiguration Settings}
    (hl : ∀ w v, World.Alike none w v → load v = load w) :
    Agree safe (Act.loading load) (Act.loading load) := by
  intro w v alike files
  unfold Act.loading
  rw [hl w v alike]
  cases load w with
  | error cause => exact ⟨rfl, alike, files⟩
  | ok settings => exact ⟨rfl, alike, files⟩

end Agree

end Act

open Act

/-! ## The server -/

/-- Requests that differ in what a form says come to the same with a server that does not listen. -/
theorem Network.answer_agree {network : Network ν} (deaf : network.IsDeaf) {a b : Http.Request}
    (hab : a.masked = b.masked) : Agree safe (network.answer a) (network.answer b) := by
  have send : Agree safe (network.send a) (network.send b) := by
    intro w v alike files
    have hnet : network b v.outside = network a w.outside := by
      rw [alike.outside, deaf a b w.outside hab]
    unfold Network.send
    rw [hnet]
    refine ⟨rfl, ⟨alike.files, alike.environment, alike.journal, ?_, alike.credential, rfl⟩, files⟩
    simp [alike.wire, Http.Exchange.masked, hab]
  refine send.bind fun reception => ?_
  cases reception with
  | answered response => exact .done response
  | unreached => exact .fail _
  | dropped => exact .fail _

theorem Http.Response.whole_agree (response : Http.Response) :
    Agree safe (response.whole : Act ν Bytes) response.whole := by
  unfold Http.Response.whole
  cases response.body with
  | some body => exact .done body
  | none => exact .fail _

namespace Client

/-- The same client under another password. -/
def withPassword (c : Client ν) (password : String) : Client ν :=
  { c with identity := { c.identity with password } }

variable (c : Client ν) (password : String)

theorem loginRequest_masked :
    (c.withPassword password).loginRequest.masked = c.loginRequest.masked := by
  have form : ∀ d : Client ν, d.loginRequest.isForm = true := fun d => by
    simp [Http.Request.isForm, Http.Request.header?, loginRequest, List.lookup_cons]
  unfold Http.Request.masked
  rw [form, form]
  rfl

variable {c} (deaf : c.network.IsDeaf)

include deaf

theorem login_agree : Agree safe c.login (c.withPassword password).login := by
  refine (Agree.note _ _ _).bind fun _ => ?_
  refine (Network.answer_agree deaf (c.loginRequest_masked password).symm).bind fun response => ?_
  split
  · exact (Agree.note _ _ _).bind fun _ => .done _
  · cases credentialOf response with
    | some credential => exact (Agree.setCredential _).bind fun _ => .done _
    | none => exact .fail _

theorem ensureCredential_agree :
    Agree safe c.ensureCredential (c.withPassword password).ensureCredential := by
  refine (Agree.look fun w v alike => ?_).bind fun held => ?_
  · rw [alike.credential]
  · split
    · exact .done none
    · exact (login_agree password deaf).bind fun reply => .done _

theorem authenticate_agree : Agree safe c.authenticate (c.withPassword password).authenticate := by
  refine (ensureCredential_agree password deaf).bind fun refusal => ?_
  cases refusal with
  | none => exact .done ()
  | some refusal => exact .ofExcept _

theorem reauthenticate_agree : Agree safe c.reauthenticate (c.withPassword password).reauthenticate :=
  (Agree.setCredential none).bind fun _ => authenticate_agree password deaf

theorem call_agree (method : String) (args : List Json.Value) (options : Json.Members) :
    Agree safe (c.call method args options) ((c.withPassword password).call method args options) := by
  refine (ensureCredential_agree password deaf).bind fun refusal => ?_
  cases refusal with
  | some refusal => exact .done refusal
  | none =>
    refine (Agree.look fun w v alike => alike.credential).bind fun credential => ?_
    refine (Network.answer_agree deaf rfl).bind fun response => ?_
    refine response.whole_agree.bind fun body => ?_
    refine Agree.bind ?_ fun _ => .done _
    unfold noteReply
    cases (Reply.ofBody response.status body).fault with
    | none => exact .note _ _ _
    | some fault => exact .note _ _ _

theorem command_agree (method : String) (args : List Json.Value) (options : Json.Members) :
    Agree safe (c.command method args options) ((c.withPassword password).command method args options) :=
  (call_agree password deaf method args options).bind fun _ => .ofExcept _

theorem Operation.act_agree (op : Client.Operation) :
    Agree safe (op.act c) (op.act (c.withPassword password)) := by
  cases op with
  | authenticate => exact (authenticate_agree password deaf).bind fun _ => .done _
  | reauthenticate => exact (reauthenticate_agree password deaf).bind fun _ => .done _
  | call m => exact (call_agree password deaf _ _ _).bind fun _ => .done _
  | command m => exact (command_agree password deaf _ _ _).bind fun _ => .done _

end Client

/-! ## Objects and fixtures -/

section

variable {c : Client ν} (password : String) (deaf : c.network.IsDeaf)

include deaf

theorem Object.run_agree (kind : Kind) (action name : String) (options : Json.Members) :
    Agree safe (Object.run c kind action name options)
      (Object.run (c.withPassword password) kind action name options) :=
  (Agree.note _ _ _).bind fun _ => Client.command_agree password deaf _ _ _

theorem Object.Operation.act_agree (op : Object.Operation) :
    Agree safe (op.act c) (op.act (c.withPassword password)) := by
  cases op with
  | add kind name => exact Object.run_agree password deaf _ _ _ _
  | remove kind name => exact Object.run_agree password deaf _ _ _ _
  | enable rule => exact Object.run_agree password deaf _ _ _ _
  | disable rule => exact Object.run_agree password deaf _ _ _ _
  | addMembers membership name members =>
    have qualified : (c.withPassword password).identity.qualify = c.identity.qualify := rfl
    unfold Object.Operation.act Object.addMembers
    simp only [qualified]
    split
    · exact Object.run_agree password deaf _ _ _ _
    · exact .fail _

namespace Fixtures

theorem Operation.act_agree (f : Fixtures) (op : Fixtures.Operation) :
    Agree safe (op.act c f) (op.act (c.withPassword password) f) := by
  cases op with
  | create kind name =>
    have add : Agree safe (f.add c (Object.named c.identity kind name))
        (f.add (c.withPassword password) (Object.named c.identity kind name)) :=
      (Object.run_agree password deaf _ _ _ _).bind fun _ => .done _
    exact (add.bind fun _ => .done _).bind fun _ => .done _
  | disableRule name =>
    refine Agree.bind ?_ fun _ => .done _
    refine (Client.call_agree password deaf _ _ _).bind fun reply => ?_
    split
    · exact (Agree.note _ _ _).bind fun _ => .done _
    · exact (Agree.ofExcept _).bind fun _ => .done _

theorem undo_agree (u : Undo) : Agree safe (undo c u) (undo (c.withPassword password) u) := by
  refine (Object.run_agree password deaf _ _ _ _).attempt.bind fun result => ?_
  cases result with
  | ok done => exact .done none
  | error e => exact (Agree.note _ _ _).bind fun _ => .done _

theorem undoAll_agree (steps : List Undo) :
    Agree safe (undoAll c steps) (undoAll (c.withPassword password) steps) := by
  induction steps with
  | nil => exact .done _
  | cons u rest ih => exact (undo_agree password deaf u).bind fun _ => ih.bind fun _ => .done _

theorem drop_agree (f : Fixtures) : Agree safe (f.drop c) (f.drop (c.withPassword password)) := by
  unfold drop
  split
  · exact .done ()
  · exact (Agree.note _ _ _).bind fun _ => (undoAll_agree password deaf _).bind fun _ => .done _

theorem teardown_agree (f : Fixtures) :
    Agree safe (f.teardown c) (f.teardown (c.withPassword password)) := by
  refine (undoAll_agree password deaf f.steps).bind fun (failure, left) => ?_
  refine (drop_agree password deaf ⟨left⟩).bind fun _ => ?_
  cases failure with
  | none => exact .done ()
  | some e => exact .fail e

end Fixtures

end

/-! ## Connections, certificates and guards -/

/-- Looks at the certificate that a server is trusted by. -/
def Act.trusting : Trust → Act ν Unit
  | .anyone => pure ()
  | .certificate path => do
    let contents ← Act.readFile path
    if !TrustAnchor.isUsable contents then Act.fail .transport

theorem Client.connectAt_eq (network : Network ν) (identity : Identity) (url : String) :
    Client.connectAt network identity url = (do
      Act.trusting identity.trust
      return { identity, baseUrl := trimSlashes url, network }) := by
  unfold Client.connectAt Act.trusting
  cases identity.trust with
  | anyone => rfl
  | certificate path =>
    funext w
    simp only [Act.bind_apply]
    generalize Act.readFile path w = ran
    obtain ⟨ending, v⟩ := ran
    cases ending with
    | done contents =>
      simp only
      split <;> rfl
    | failed e => rfl
    | panicked p => rfl

/-- Connecting has nothing to do with the password. -/
theorem Rig.connect_eq (r : Rig ν) (url : Option String) :
    r.connect url = (do
      Act.trusting r.settings.server.trust
      Act.change fun w => { w with credential := none }
      return Client.trimSlashes (url.getD ("https://" ++ r.settings.server.hostname))) := by
  have assoc : ∀ address : String, (do
      let c ← Client.connectAt r.network r.settings.server address
      Act.change fun w => { w with credential := none }
      return c.baseUrl : Act ν String) = (do
      Act.trusting r.settings.server.trust
      Act.change fun w => { w with credential := none }
      return Client.trimSlashes address) := by
    intro address
    funext w
    rw [Client.connectAt_eq]
    simp only [Act.bind_apply]
    generalize Act.trusting r.settings.server.trust w = ran
    obtain ⟨ending, v⟩ := ran
    cases ending <;> rfl
  cases url with
  | some address => exact assoc address
  | none => exact assoc _

theorem Act.Agree.trusting (trust : Trust) :
    Agree safe (Act.trusting trust : Act ν Unit) (Act.trusting trust) := by
  cases trust with
  | anyone => exact .done ()
  | certificate path =>
    refine (Agree.readFile path).bind fun contents => ?_
    split
    · exact .fail _
    · exact .done ()

theorem Guard.create_agree (lasts : FileTree.Lasts safe) (component : Component) (path : Path)
    (contents : Bytes) :
    Agree safe (Guard.create component path contents : Act ν Guard)
      (Guard.create component path contents) :=
  (Agree.writeFile lasts _ _).bind fun _ => .done _

theorem Guard.drop_agree (lasts : FileTree.Lasts safe) (g : Guard) :
    Agree safe (g.drop : Act ν Unit) g.drop := by
  intro w v alike files
  have hfiles : v.files = w.files := alike.files
  have left := lasts.discard w.files g.path files
  rw [Guard.drop_apply, Guard.drop_apply, hfiles]
  cases hr : w.files.remove g.path with
  | ok t =>
    rw [FileTree.discard_of_remove hr] at left
    exact ⟨rfl, alike.withFiles _, left⟩
  | error cause => exact Agree.note _ _ _ w v alike files

theorem Certificate.fetchFrom_agree {network : Network ν} (lasts : FileTree.Lasts safe)
    (deaf : network.IsDeaf) (url : String) (path : Path) :
    Agree safe (Certificate.fetchFrom network url path) (Certificate.fetchFrom network url path) := by
  refine (Agree.note _ _ _).bind fun _ => (Network.answer_agree deaf rfl).bind fun response => ?_
  split
  · exact .fail _
  · exact response.whole_agree.bind fun contents => Guard.create_agree lasts _ _ _

end HostAccess
