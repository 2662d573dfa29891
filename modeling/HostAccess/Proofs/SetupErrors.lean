import HostAccess.Proofs.Operations

/-!
# A setup error means that nothing was touched

Setup errors come from looking at what an operation is given, before it does anything. Everything that
comes after that, exchanges with the server, files and the checker, fails with errors of other kinds.
So the operations are of two sorts: those that never end with a setup error, and those that end with
one where they began.
-/
namespace HostAccess

variable {ν α β : Type}

namespace Act

/-- Whether an act never ends with a setup error. -/
def IsPastSetup (x : Act ν α) : Prop :=
  ∀ w e after, x w = (.failed e, after) → e.isSetup = false

namespace IsPastSetup

theorem done (a : α) : IsPastSetup (pure a : Act ν α) := by
  intro w e after h
  cases h

theorem change (f : World ν → World ν) : IsPastSetup (Act.change f) := by
  intro w e after h
  cases h

theorem look (f : World ν → α) : IsPastSetup (Act.look f) := by
  intro w e after h
  cases h

theorem note (component : Component) (level : Level) (message : String) :
    IsPastSetup (Act.note component level message : Act ν Unit) := change _

theorem fail {e : Error} (he : e.isSetup = false) : IsPastSetup (Act.fail e : Act ν α) := by
  rintro w _ _ ⟨⟩
  exact he

theorem ofExcept {x : Except Error α} (hx : ∀ e, x = .error e → e.isSetup = false) :
    IsPastSetup (Act.ofExcept x : Act ν α) := by
  cases x with
  | ok a => exact done a
  | error e => exact fail (hx e rfl)

/-- Only the values that an act can end with matter to how it goes on. -/
theorem bindOf {x : Act ν α} {f : α → Act ν β} (hx : x.IsPastSetup)
    (hf : ∀ w a after, x w = (.done a, after) → (f a).IsPastSetup) : (x >>= f).IsPastSetup := by
  intro w e after h
  rw [Act.bind_apply] at h
  cases hrun : x w with
  | mk ending v =>
    rw [hrun] at h
    cases ending with
    | done a => exact hf w a v hrun v e after h
    | failed e' =>
      obtain ⟨rfl, rfl⟩ : e' = e ∧ v = after := by simpa using h
      exact hx w e' v hrun
    | panicked p => simp at h

theorem bind {x : Act ν α} {f : α → Act ν β} (hx : x.IsPastSetup) (hf : ∀ a, (f a).IsPastSetup) :
    (x >>= f).IsPastSetup :=
  hx.bindOf fun _ a _ _ => hf a

theorem attempt (x : Act ν α) : IsPastSetup (Act.attempt x) := by
  intro w e after h
  unfold Act.attempt at h
  split at h <;> simp at h

theorem writeFile (path : Path) (contents : Bytes) :
    IsPastSetup (Act.writeFile path contents : Act ν Unit) := by
  intro w e after h
  unfold Act.writeFile at h
  split at h
  · cases h
  · cases h
    rfl

theorem removeFile (path : Path) : IsPastSetup (Act.removeFile path : Act ν Unit) := by
  intro w e after h
  unfold Act.removeFile at h
  split at h
  · cases h
  · cases h
    rfl

theorem readFile (path : Path) : IsPastSetup (Act.readFile path : Act ν Bytes) := by
  intro w e after h
  unfold Act.readFile at h
  split at h
  · cases h
  · cases h
    rfl

end IsPastSetup

end Act

open Act

/-! ## The server -/

theorem Network.answer_isPastSetup (network : Network ν) (request : Http.Request) :
    IsPastSetup (network.answer request) := by
  have send : IsPastSetup (network.send request) := by
    intro w e after h
    cases h
  refine send.bind fun reception => ?_
  cases reception with
  | answered response => exact .done response
  | unreached => exact .fail rfl
  | dropped => exact .fail rfl

theorem Http.Response.whole_isPastSetup (response : Http.Response) :
    IsPastSetup (response.whole : Act ν Bytes) := by
  unfold Http.Response.whole
  cases response.body with
  | some body => exact .done body
  | none => exact .fail rfl

/-- A refusal by the server is no setup error. -/
theorem Reply.check_isPastSetup (reply : Reply) (method : String) :
    IsPastSetup (Act.ofExcept (reply.check method) : Act ν Unit) := by
  refine .ofExcept fun e he => ?_
  unfold Reply.check at he
  split at he
  · cases he
  · cases he
    rfl

namespace Client

theorem connectAt_isPastSetup (network : Network ν) (identity : Identity) (url : String) :
    IsPastSetup (Client.connectAt network identity url) := by
  unfold connectAt
  cases identity.trust with
  | anyone => exact (IsPastSetup.done ()).bind fun _ => .done _
  | certificate path =>
    refine (IsPastSetup.readFile path).bind fun contents => ?_
    split
    · exact (IsPastSetup.fail rfl).bind fun _ => .done _
    · exact .done _

variable (c : Client ν)

theorem login_isPastSetup : IsPastSetup c.login := by
  refine (IsPastSetup.note _ _ _).bind fun _ => (c.network.answer_isPastSetup _).bind fun response => ?_
  split
  · exact (IsPastSetup.note _ _ _).bind fun _ => .done _
  · cases credentialOf response with
    | some credential => exact (IsPastSetup.change _).bind fun _ => .done _
    | none => exact .fail rfl

theorem ensureCredential_isPastSetup : IsPastSetup c.ensureCredential := by
  refine (IsPastSetup.look _).bind fun held => ?_
  split
  · exact .done none
  · exact c.login_isPastSetup.bind fun reply => .done _

theorem authenticate_isPastSetup : IsPastSetup c.authenticate := by
  refine c.ensureCredential_isPastSetup.bind fun refusal => ?_
  cases refusal with
  | none => exact .done ()
  | some refusal => exact refusal.check_isPastSetup _

theorem reauthenticate_isPastSetup : IsPastSetup c.reauthenticate :=
  (IsPastSetup.change _).bind fun _ => c.authenticate_isPastSetup

theorem noteReply_isPastSetup (method : String) (args : List Json.Value) (reply : Reply) :
    IsPastSetup (noteReply method args reply : Act ν Unit) := by
  unfold noteReply
  cases reply.fault with
  | none => exact .note _ _ _
  | some fault => exact .note _ _ _

theorem call_isPastSetup (method : String) (args : List Json.Value) (options : Json.Members) :
    IsPastSetup (c.call method args options) := by
  refine c.ensureCredential_isPastSetup.bind fun refusal => ?_
  cases refusal with
  | some refusal => exact .done refusal
  | none =>
    refine (IsPastSetup.look _).bind fun credential => ?_
    refine (c.network.answer_isPastSetup _).bind fun response => ?_
    refine response.whole_isPastSetup.bind fun body => ?_
    exact (noteReply_isPastSetup _ _ _).bind fun _ => .done _

theorem command_isPastSetup (method : String) (args : List Json.Value) (options : Json.Members) :
    IsPastSetup (c.command method args options) :=
  (c.call_isPastSetup method args options).bind fun reply => reply.check_isPastSetup _

theorem Operation.act_isPastSetup (op : Client.Operation) : IsPastSetup (op.act c) := by
  cases op with
  | authenticate => exact c.authenticate_isPastSetup.bind fun _ => .done _
  | reauthenticate => exact c.reauthenticate_isPastSetup.bind fun _ => .done _
  | call m => exact (c.call_isPastSetup _ _ _).bind fun _ => .done _
  | command m => exact (c.command_isPastSetup _ _ _).bind fun _ => .done _

end Client

theorem Rig.connect_isPastSetup (r : Rig ν) (url : Option String) : IsPastSetup (r.connect url) := by
  have tail : ∀ c : Client ν, IsPastSetup (do
      Act.change fun w => { w with credential := none }
      return c.baseUrl : Act ν String) := fun c => (IsPastSetup.change _).bind fun _ => .done _
  cases url with
  | some url => exact (Client.connectAt_isPastSetup _ _ _).bind tail
  | none => exact (Client.connectAt_isPastSetup _ _ _).bind tail

/-! ## Fixtures and guards -/

theorem Object.run_isPastSetup (c : Client ν) (kind : Kind) (action name : String)
    (options : Json.Members) : IsPastSetup (Object.run c kind action name options) :=
  (IsPastSetup.note _ _ _).bind fun _ => c.command_isPastSetup _ _ _

namespace Fixtures

variable (c : Client ν)

theorem Operation.act_isPastSetup (f : Fixtures) (op : Fixtures.Operation) :
    IsPastSetup (op.act c f) := by
  cases op with
  | create kind name =>
    exact (((Object.run_isPastSetup c _ _ _ _).bind fun _ => .done _).bind fun _ => .done _).bind
      fun _ => .done _
  | disableRule name =>
    refine IsPastSetup.bind ?_ fun _ => .done _
    refine (c.call_isPastSetup _ _ _).bind fun reply => ?_
    split
    · exact (IsPastSetup.note _ _ _).bind fun _ => .done _
    · exact (reply.check_isPastSetup _).bind fun _ => .done _

theorem undo_isPastSetup (u : Undo) : IsPastSetup (undo c u) := by
  refine (IsPastSetup.attempt _).bind fun result => ?_
  cases result with
  | ok done => exact .done none
  | error e => exact (IsPastSetup.note _ _ _).bind fun _ => .done _

theorem undoAll_isPastSetup (steps : List Undo) : IsPastSetup (undoAll c steps) := by
  induction steps with
  | nil => exact .done _
  | cons u rest ih => exact (undo_isPastSetup c u).bind fun _ => ih.bind fun _ => .done _

theorem drop_isPastSetup (f : Fixtures) : IsPastSetup (f.drop c) := by
  unfold drop
  split
  · exact .done ()
  · exact (IsPastSetup.note _ _ _).bind fun _ => (undoAll_isPastSetup c _).bind fun _ => .done _

/-- What undoing a step gives back is no setup error. -/
theorem undo_failure {u : Undo} {w after : World ν} {e : Error}
    (h : undo c u w = (.done (some e), after)) : e.isSetup = false := by
  unfold undo at h
  rw [Act.bind_apply] at h
  unfold Act.attempt at h
  cases hrun : Object.run c u.kind u.undoing.action u.name [] w with
  | mk ending v =>
    rw [hrun] at h
    cases ending with
    | done a => simp at h
    | failed e' =>
      obtain ⟨rfl, -⟩ : e' = e ∧ _ := by simpa [Act.note, Act.change] using h
      exact Object.run_isPastSetup c _ _ _ _ w e' v hrun
    | panicked p => simp at h

theorem undoAll_failure {steps : List Undo} {w after : World ν} {e : Error} {left : List Undo}
    (h : undoAll c steps w = (.done (some e, left), after)) : e.isSetup = false := by
  induction steps generalizing w e left with
  | nil => simp [undoAll] at h
  | cons u rest ih =>
    rw [undoAll, Act.bind_apply] at h
    cases hfirst : undo c u w with
    | mk ending v =>
      rw [hfirst] at h
      cases ending with
      | failed e' => simp at h
      | panicked p => simp at h
      | done failure =>
        simp only [Act.bind_apply] at h
        cases hrest : undoAll c rest v with
        | mk ending v' =>
          rw [hrest] at h
          cases ending with
          | failed e' => simp at h
          | panicked p => simp at h
          | done found =>
            obtain ⟨later, left'⟩ := found
            obtain ⟨⟨hor, rfl⟩, rfl⟩ : (failure.or later = some e ∧ left' = left) ∧ v' = after := by
              simpa using h
            cases failure with
            | some e' =>
              obtain rfl : e' = e := by simpa using hor
              exact undo_failure c hfirst
            | none =>
              obtain rfl : later = some e := by simpa using hor
              exact ih hrest

theorem teardown_isPastSetup (f : Fixtures) : IsPastSetup (f.teardown c) := by
  refine (undoAll_isPastSetup c f.steps).bindOf fun w found after hrun => ?_
  obtain ⟨failure, left⟩ := found
  refine (drop_isPastSetup c ⟨left⟩).bind fun _ => ?_
  cases failure with
  | none => exact .done ()
  | some e => exact .fail (undoAll_failure c hrun)

end Fixtures

theorem Guard.create_isPastSetup (component : Component) (path : Path) (contents : Bytes) :
    IsPastSetup (Guard.create component path contents : Act ν Guard) :=
  (IsPastSetup.writeFile _ _).bind fun _ => .done _

theorem Guard.drop_isPastSetup (g : Guard) : IsPastSetup (g.drop : Act ν Unit) := by
  intro w e after h
  rw [Guard.drop_apply] at h
  split at h <;> cases h

theorem Certificate.fetchFrom_isPastSetup (network : Network ν) (url : String) (path : Path) :
    IsPastSetup (Certificate.fetchFrom network url path) := by
  refine (IsPastSetup.note _ _ _).bind fun _ => (network.answer_isPastSetup _).bind fun response => ?_
  split
  · exact .fail rfl
  · exact response.whole_isPastSetup.bind fun contents => Guard.create_isPastSetup _ _ _

/-! ## Acts that look before they begin -/

namespace Act

/-- Whether an act that ends with a setup error leaves everything as it was. -/
def LooksFirst (x : Act ν α) : Prop :=
  ∀ w e after, x w = (.failed e, after) → e.isSetup = true → after = w

namespace LooksFirst

theorem of_isPastSetup {x : Act ν α} (hx : x.IsPastSetup) : x.LooksFirst := by
  intro w e after h setup
  rw [hx w e after h] at setup
  cases setup

theorem bind {x : Act ν α} {f : α → Act ν β} (hx : x.LooksFirst) (hf : ∀ a, (f a).IsPastSetup) :
    (x >>= f).LooksFirst := by
  intro w e after h setup
  rw [Act.bind_apply] at h
  cases hrun : x w with
  | mk ending v =>
    rw [hrun] at h
    cases ending with
    | done a =>
      rw [hf a v e after h] at setup
      cases setup
    | failed e' =>
      obtain ⟨rfl, rfl⟩ : e' = e ∧ v = after := by simpa using h
      exact hx w e' v hrun setup
    | panicked p => simp at h

theorem loading (load : World ν → Except Misconfiguration Settings) :
    LooksFirst (Act.loading load) := by
  intro w e after h _
  unfold Act.loading at h
  split at h
  · cases h
  · exact (Prod.mk.inj h).2.symm

theorem parsing (text : String) : LooksFirst (Act.parsing text : Act ν ModuleConfig) := by
  intro w e after h _
  unfold Act.parsing at h
  cases hp : ModuleConfig.parse text with
  | ok c =>
    rw [hp] at h
    cases h
  | error cause =>
    rw [hp] at h
    exact (Prod.mk.inj h).2.symm

end LooksFirst

end Act

/-- Members are looked at before the server is told of them. -/
theorem Object.Operation.act_looksFirst (c : Client ν) (op : Object.Operation) :
    LooksFirst (op.act c) := by
  cases op with
  | add kind name => exact .of_isPastSetup (Object.run_isPastSetup c _ _ _ _)
  | remove kind name => exact .of_isPastSetup (Object.run_isPastSetup c _ _ _ _)
  | enable rule => exact .of_isPastSetup (Object.run_isPastSetup c _ _ _ _)
  | disable rule => exact .of_isPastSetup (Object.run_isPastSetup c _ _ _ _)
  | addMembers membership name members =>
    unfold Object.Operation.act Object.addMembers
    simp only
    split
    · exact .of_isPastSetup (Object.run_isPastSetup c _ _ _ _)
    · intro w e after h _
      exact (Prod.mk.inj h).2.symm

theorem Guard.released_error {g : Guard} {t : FileTree} {e : Error}
    (h : g.released t = .error e) : e.isSetup = false := by
  unfold Guard.released at h
  split at h
  · cases h
  · cases h
    rfl

namespace Harness

theorem conclusion_failed {h : Harness ν} {service : String} {verdict : Verdict} {t : FileTree}
    {e : Error} (run : h.conclusion service verdict t = .failed e) : e.isSetup = false := by
  unfold conclusion at run
  cases verdict with
  | panic text => cases run
  | failure cause =>
    obtain rfl := Ending.failed.inj run
    rfl
  | code c =>
    simp only at run
    split at run
    · rename_i e' hs
      exact Ending.failed.inj run ▸ Guard.released_error hs
    · rename_i e' hs hc
      unfold configReleased at hc
      split at hc
      · exact Ending.failed.inj run ▸ Guard.released_error hc
      · cases hc
    · cases run

/-- A check ends with a setup error only if it is asked for a service that cannot be one. -/
theorem misnamed_of_setup_error {h : Harness ν} {user service : String} {host : Option String}
    {w after : World ν} {e : Error} (run : h.check user service host w = (.failed e, after))
    (setup : e.isSetup = true) : isServiceName service = false := by
  obtain ⟨calls, checks, -⟩ := h.check_checks user service host w
  rw [run] at checks
  have late : e.isSetup ≠ false := by simp [setup]
  generalize hend : (.failed e : Ending Int32) = ending at checks
  cases checks with
  | misnamed named => exact named
  | unexportable named nul => cases hend
  | unconfigured named nul config =>
    obtain ⟨path, cause, -, -, rfl⟩ := layConfig_eq_error.mp config
    exact absurd (congrArg Error.isSetup (Ending.failed.inj hend)) late
  | undescribed named nul config description =>
    obtain ⟨cause, -, rfl⟩ := lay_eq_error_iff.mp description
    exact absurd (congrArg Error.isSetup (Ending.failed.inj hend)) late
  | asked named nul config description answer => exact absurd (conclusion_failed hend.symm) late

theorem Question.settle_failed {h : Harness ν} {q : Question} {ending : Ending Int32} {e : Error}
    (run : q.settle h ending = .failed e) : ending = .failed e := by
  have asserted : ∀ user service expected host,
      assert h user service expected host ending = .failed e → ending = .failed e := by
    intro user service expected host hrun
    cases ending with
    | done code =>
      simp only [assert] at hrun
      split at hrun <;> cases hrun
    | failed e' => exact congrArg Ending.failed (Ending.failed.inj hrun)
    | panicked p => cases hrun
  cases q with
  | check user service host => exact run
  | returns user service host =>
    cases ending with
    | done code => cases run
    | failed e' => exact congrArg Ending.failed (Ending.failed.inj run)
    | panicked p => cases run
  | assertReturns user service expected host => exact asserted _ _ _ _ run
  | assertAllowed user service host => exact asserted _ _ _ _ run
  | assertDenied user service host => exact asserted _ _ _ _ run

/-- A question that ends with a setup error ends with it whatever the harness is like. -/
theorem Question.ask_of_setup_error {h k : Harness ν} {q : Question} {w after : World ν} {e : Error}
    (run : q.ask h w = (.failed e, after)) (setup : e.isSetup = true) :
    after = w ∧ q.ask k w = (.failed e, w) := by
  rw [q.ask_eq] at run
  obtain ⟨hend, rfl⟩ := Prod.mk.inj run
  have hfailed := Question.settle_failed hend
  have hcheck : h.check q.user q.service q.host w =
      (.failed e, (h.check q.user q.service q.host w).2) := Prod.ext hfailed rfl
  have named := misnamed_of_setup_error hcheck setup
  rw [check_of_misnamed named] at hfailed ⊢
  obtain rfl := Ending.failed.inj hfailed
  refine ⟨rfl, ?_⟩
  rw [q.ask_eq, check_of_misnamed named]
  cases q <;> rfl

end Harness

/-! ## Every operation -/

namespace Operation

variable (r : Rig ν) (held : Held)

theorem withClient_looksFirst {x : Client ν → Act ν (Answer × Held)} (hx : ∀ c, (x c).LooksFirst) :
    LooksFirst (withClient r held x) := by
  unfold withClient
  cases held.connected with
  | some url => exact hx _
  | none => exact .of_isPastSetup (.done _)

theorem withClient_isPastSetup {x : Client ν → Act ν (Answer × Held)} (hx : ∀ c, (x c).IsPastSetup) :
    IsPastSetup (withClient r held x) := by
  unfold withClient
  cases held.connected with
  | some url => exact hx _
  | none => exact .done _

theorem withGuard_isPastSetup (index : Nat) {x : Guard → Act ν Unit}
    (hx : ∀ g, (x g).IsPastSetup) : IsPastSetup (withGuard held index x) := by
  unfold withGuard
  cases held.guards[index]? with
  | some guard => exact (hx guard).bind fun _ => .done _
  | none => exact .done _

theorem leftovers_looksFirst (h : Harness ν) : LooksFirst h.leftovers := by
  intro w e after run _
  unfold Harness.leftovers at run
  split at run
  · exact (Prod.mk.inj run).2.symm
  · split at run
    · exact (Prod.mk.inj run).2.symm
    · cases run

/-- Every operation but a question looks first, and has nothing to do with the checker. What it holds
is as it was, unless it never ends with a setup error. -/
theorem act_looksFirst (op : Operation) (notAsked : ∀ q, op ≠ .ask q) :
    LooksFirst (op.act r held) ∧ (op.spent held = held ∨ IsPastSetup (op.act r held)) ∧
      ∀ checker, op.act (r.withChecker checker) held = op.act r held := by
  cases op with
  | load lookup => exact ⟨(LooksFirst.loading _).bind fun _ => .done _, .inl rfl, fun _ => rfl⟩
  | loadEnvironment => exact ⟨(LooksFirst.loading _).bind fun _ => .done _, .inl rfl, fun _ => rfl⟩
  | parse text => exact ⟨(LooksFirst.parsing text).bind fun _ => .done _, .inl rfl, fun _ => rfl⟩
  | connect url =>
    exact ⟨.of_isPastSetup ((r.connect_isPastSetup url).bind fun _ => .done _), .inl rfl, fun _ => rfl⟩
  | session op =>
    have past : IsPastSetup (Operation.act r held (.session op)) :=
      withClient_isPastSetup r held fun c => (op.act_isPastSetup c).bind fun answer =>
        .done (answer, held)
    exact ⟨.of_isPastSetup past, .inl rfl, fun _ => rfl⟩
  | object op =>
    have looks : LooksFirst (Operation.act r held (.object op)) :=
      withClient_looksFirst r held fun c => (op.act_looksFirst c).bind fun _ => .done _
    exact ⟨looks, .inl rfl, fun _ => rfl⟩
  | fixture slot op =>
    have past : IsPastSetup (Operation.act r held (.fixture slot op)) :=
      withClient_isPastSetup r held fun c => (op.act_isPastSetup c (held.fixtures slot)).bind
        fun (answer, f) => .done
          (answer, { held with fixtures := Function.update held.fixtures slot f })
    exact ⟨.of_isPastSetup past, .inl rfl, fun _ => rfl⟩
  | teardown slot =>
    have past : IsPastSetup (Operation.act r held (.teardown slot)) :=
      withClient_isPastSetup r held fun c => (Fixtures.teardown_isPastSetup c _).bind fun _ => .done _
    exact ⟨.of_isPastSetup past, .inr past, fun _ => rfl⟩
  | dropFixtures slot =>
    have past : IsPastSetup (Operation.act r held (.dropFixtures slot)) :=
      withClient_isPastSetup r held fun c => (Fixtures.drop_isPastSetup c _).bind fun _ => .done _
    exact ⟨.of_isPastSetup past, .inr past, fun _ => rfl⟩
  | fetch path =>
    have past : IsPastSetup (Operation.act r held (.fetch path)) :=
      (Certificate.fetchFrom_isPastSetup _ _ _).bind fun _ => .done _
    exact ⟨.of_isPastSetup past, .inl rfl, fun _ => rfl⟩
  | fetchFrom url path =>
    have past : IsPastSetup (Operation.act r held (.fetchFrom url path)) :=
      (Certificate.fetchFrom_isPastSetup _ _ _).bind fun _ => .done _
    exact ⟨.of_isPastSetup past, .inl rfl, fun _ => rfl⟩
  | create path contents =>
    have past : IsPastSetup (Operation.act r held (.create path contents)) :=
      (Guard.create_isPastSetup _ _ _).bind fun _ => .done _
    exact ⟨.of_isPastSetup past, .inl rfl, fun _ => rfl⟩
  | release index =>
    have past : IsPastSetup (Operation.act r held (.release index)) :=
      withGuard_isPastSetup held index fun g => g.release_eq ▸ .removeFile _
    exact ⟨.of_isPastSetup past, .inr past, fun _ => rfl⟩
  | dropGuard index =>
    have past : IsPastSetup (Operation.act r held (.dropGuard index)) :=
      withGuard_isPastSetup held index Guard.drop_isPastSetup
    exact ⟨.of_isPastSetup past, .inr past, fun _ => rfl⟩
  | ask question => exact absurd rfl (notAsked question)
  | leftovers => exact ⟨(leftovers_looksFirst r.harness).bind fun _ => .done _, .inl rfl, fun _ => rfl⟩

/-- A question leaves what is held alone, and an error of it is that of the question. -/
theorem act_ask_failed {question : Harness.Question} {w after : World ν} {e : Error}
    (run : Operation.act r held (.ask question) w = (.failed e, after)) :
    question.ask r.harness w = (.failed e, after) := by
  rw [act_ask, Act.bind_apply] at run
  cases hq : question.ask r.harness w with
  | mk ending v =>
    rw [hq] at run
    cases ending with
    | done value => cases run
    | failed e' =>
      obtain ⟨rfl, rfl⟩ : e' = e ∧ v = after := by simpa using run
      rfl
    | panicked p => cases run

/-- **A setup error means that nothing was touched.** Whatever the state of a run, an operation that
ends with a setup error leaves it as it was: no request was sent, and the credential, the fixtures, the
guards, the files, the variables and the journal are the same. The checker had no part in it, for with
any other in its place the operation ends the same way. -/
theorem perform_of_setup_error (op : Operation) (s after : Stage ν) (e : Error)
    (run : op.perform r s = (.failed e, after)) (setup : e.isSetup = true) :
    after = s ∧ ∀ checker, op.perform (r.withChecker checker) s = (.failed e, s) := by
  obtain ⟨held, w⟩ := s
  obtain ⟨v, hact, hafter⟩ : ∃ v, op.act r held w = (.failed e, v) ∧ after = ⟨op.spent held, v⟩ := by
    unfold perform at run
    generalize hact : op.act r held w = ran at run
    obtain ⟨ending, v⟩ := ran
    cases ending with
    | done value => cases run
    | failed e' =>
      obtain ⟨rfl, rfl⟩ : e' = e ∧ ⟨op.spent held, v⟩ = after := by simpa using run
      exact ⟨v, rfl, rfl⟩
    | panicked p => cases run
  suffices h : v = w ∧ op.spent held = held ∧
      ∀ checker, op.act (r.withChecker checker) held w = (.failed e, w) by
    obtain ⟨rfl, hspent, hother⟩ := h
    refine ⟨by rw [hafter, hspent], fun checker => ?_⟩
    simp only [perform, hother, hspent]
  by_cases asked : ∃ q, op = .ask q
  · obtain ⟨question, rfl⟩ := asked
    obtain ⟨rfl, hother⟩ := Harness.Question.ask_of_setup_error (k := r.harness)
      (act_ask_failed r held hact) setup
    refine ⟨rfl, rfl, fun checker => ?_⟩
    have hask := (Harness.Question.ask_of_setup_error (k := (r.withChecker checker).harness)
      (act_ask_failed r held hact) setup).2
    rw [act_ask, Act.bind_apply, hask]
  · obtain ⟨looks, kept, same⟩ := act_looksFirst r held op fun q hq => asked ⟨q, hq⟩
    obtain rfl := looks w e v hact setup
    refine ⟨rfl, ?_, fun checker => by rw [same, hact]⟩
    obtain kept | past := kept
    · exact kept
    · rw [past _ e _ hact] at setup
      cases setup

/-- A rule that was switched off is to be given no hosts at all. -/
def memberless : Operation := .object (.addMembers .hostOfRule "allow_all" Members.empty)

def underway : Stage Unit where
  held := ⟨some "https://ipa.ipa.test", fun _ => ⟨[⟨.rule, .enabling, "allow_all"⟩]⟩, []⟩
  world := { World.blank () with credential := some "ipa_session=a" }

def allowing : Rig Unit := .forTests (Path.ofString "/pam_hbac.conf") fun _ _ w => (.code 0, w)

theorem perform_of_setup_error_memberless :
    (memberless.perform allowing underway).1 = .failed (.usage (.noMembers "host")) ∧
      (memberless.perform allowing underway).2 = underway ∧
      ∀ checker, memberless.perform (allowing.withChecker checker) underway =
        (.failed (.usage (.noMembers "host")), underway) :=
  ⟨rfl, perform_of_setup_error allowing memberless underway _ _ rfl rfl⟩

end Operation

end HostAccess
