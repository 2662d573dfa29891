import HostAccess.Fixtures
import HostAccess.Proofs.Client

/-!
# What fixtures do

An operation on fixtures is one command to the server. If the command succeeds, the step that undoes
it is put on top of the others; if it does not, the steps stay as they are. Undoing a step is one
command too. What is written down along the way plays no part in it.
-/
namespace HostAccess.Fixtures

open Client (Message)

variable {ν : Type}

/-- What fixtures can be told to do. -/
inductive Operation where
  | create (kind : Kind) (name : String)
  | disableRule (name : String)
  deriving DecidableEq, Repr

namespace Operation

def message (c : Client ν) : Operation → Message
  | .create kind name =>
    let object := Object.named c.identity kind name
    ⟨Object.method kind "add", [.text object.name], kind.addOptions object.name⟩
  | .disableRule name => ⟨Object.method .rule "disable", [.text name], []⟩

def undo (c : Client ν) : Operation → Undo
  | .create kind name => ⟨kind, .removal, (Object.named c.identity kind name).name⟩
  | .disableRule name => ⟨.rule, .enabling, name⟩

def Succeeds (c : Client ν) (op : Operation) (w : World ν) : Prop :=
  (c.command (op.message c).method (op.message c).args (op.message c).options w).1 = .done ()

instance (c : Client ν) (op : Operation) (w : World ν) : Decidable (op.Succeeds c w) :=
  inferInstanceAs (Decidable (_ = _))

/-- Does an operation. Fixtures stay as they are if it does not end with others. -/
def perform (c : Client ν) (op : Operation) (f : Fixtures) (w : World ν) : Fixtures × World ν :=
  match op with
  | .create kind name =>
    match f.create c kind name w with
    | (.done (_, f), w) => (f, w)
    | (.failed _, w) | (.panicked _, w) => (f, w)
  | .disableRule name =>
    match f.disableRule c name w with
    | (.done f, w) => (f, w)
    | (.failed _, w) | (.panicked _, w) => (f, w)

end Operation

/-- Does operations in order, however each of them ends. -/
def run (c : Client ν) : List Operation → Fixtures × World ν → Fixtures × World ν
  | [], s => s
  | op :: rest, (f, w) => run c rest (op.perform c f w)

/-- The operations of a run whose commands succeed, in order. -/
def succeeded (c : Client ν) : List Operation → Fixtures × World ν → List Operation
  | [], _ => []
  | op :: rest, (f, w) =>
    (if op.Succeeds c w then [op] else []) ++ succeeded c rest (op.perform c f w)

theorem succeeds_iff (c : Client ν) (op : Operation) (w : World ν) :
    op.Succeeds c w ↔ ∃ reply : Reply,
      (c.call (op.message c).method (op.message c).args (op.message c).options w).1 = .done reply ∧
        reply.isSuccess = true :=
  c.command_done_iff _ _ _ w

/-- What an operation comes to: the steps are one more if its command succeeds and otherwise the
same, and the world is that after its command but for the journal. -/
structure Performs (c : Client ν) (op : Operation) (f : Fixtures) (w : World ν)
    (after : Fixtures × World ν) : Prop where
  success : op.Succeeds c w → after.1 = ⟨op.undo c :: f.steps⟩
  failure : ¬ op.Succeeds c w → after.1 = f
  world : after.2.silent =
    (c.call (op.message c).method (op.message c).args (op.message c).options w).2.silent

theorem performs_create (c : Client ν) (kind : Kind) (name : String) (f : Fixtures) (w : World ν) :
    Performs c (.create kind name) f w ((Operation.create kind name).perform c f w) := by
  let object := Object.named c.identity kind name
  let record : Record :=
    ⟨Component.fixture.target, .debug, Object.method kind "add" ++ " " ++ object.name⟩
  -- A line is written down before the command is sent; `command_noted` takes it away again.
  obtain ⟨ending, world⟩ := c.command_noted (Object.method kind "add") [.text object.name]
    (kind.addOptions object.name) w [record]
  have hadd : object.add c w = c.command (Object.method kind "add") [.text object.name]
      (kind.addOptions object.name) (w.noted [record]) := rfl
  have hs : (Operation.create kind name).Succeeds c w ↔ (object.add c w).1 = .done () := by
    rw [hadd, ending]
    rfl
  rw [← hadd] at world
  have hp : (Operation.create kind name).perform c f w =
      match object.add c w with
      | (.done (), v) => (⟨(Operation.create kind name).undo c :: f.steps⟩, v)
      | (.failed _, v) | (.panicked _, v) => (f, v) := by
    simp only [Operation.perform, create, add, Act.bind_apply, object]
    generalize (Object.named c.identity kind name).add c w = run
    obtain ⟨ending, v⟩ := run
    cases ending <;> rfl
  rw [hp]
  generalize object.add c w = run at hs world
  obtain ⟨ending, v⟩ := run
  cases ending with
  | done => exact ⟨fun _ => rfl, fun h => absurd (hs.mpr rfl) h, world⟩
  | failed e => exact ⟨fun h => absurd (hs.mp h) (by simp), fun _ => rfl, world⟩
  | panicked p => exact ⟨fun h => absurd (hs.mp h) (by simp), fun _ => rfl, world⟩

/-- A fault that a rule is switched off already is a fault. -/
theorem isSuccess_of_inactive {reply : Reply}
    (inactive : reply.fault.bind (·.name) = some alreadyInactive) : reply.isSuccess = false := by
  obtain ⟨fault, hf, -⟩ := Option.bind_eq_some_iff.mp inactive
  simp [Reply.isSuccess, hf]

theorem performs_disableRule (c : Client ν) (name : String) (f : Fixtures) (w : World ν) :
    Performs c (.disableRule name) f w ((Operation.disableRule name).perform c f w) := by
  have hs := succeeds_iff c (.disableRule name) w
  simp only [Operation.message] at hs
  cases hrun : c.call (Object.method .rule "disable") [.text name] [] w with
  | mk ending v =>
    rw [hrun] at hs
    have world : v.silent =
        (c.call (Object.method .rule "disable") [.text name] [] w).2.silent := by rw [hrun]
    cases ending with
    | failed e =>
      have hp : (Operation.disableRule name).perform c f w = (f, v) := by
        simp [Operation.perform, disableRule, hrun]
      rw [hp]
      exact ⟨fun h => absurd (hs.mp h) (by simp), fun _ => rfl, world⟩
    | panicked p =>
      have hp : (Operation.disableRule name).perform c f w = (f, v) := by
        simp [Operation.perform, disableRule, hrun]
      rw [hp]
      exact ⟨fun h => absurd (hs.mp h) (by simp), fun _ => rfl, world⟩
    | done reply =>
      by_cases inactive : reply.fault.bind (·.name) = some alreadyInactive
      · have hf : reply.isSuccess = false := isSuccess_of_inactive inactive
        have hp : (Operation.disableRule name).perform c f w = (f, v.noted
            [⟨Component.fixture.target, .info, "rule " ++ name ++ " is already disabled"⟩]) := by
          simp [Operation.perform, disableRule, hrun, inactive, Act.note_apply]
        rw [hp]
        exact ⟨fun h => absurd (hs.mp h) (by simp [hf]), fun _ => rfl, world⟩
      · cases success : reply.isSuccess with
        | true =>
          have hp : (Operation.disableRule name).perform c f w =
              (⟨⟨.rule, .enabling, name⟩ :: f.steps⟩, v) := by
            simp [Operation.perform, disableRule, hrun, inactive, Reply.check, success,
              Act.ofExcept, Act.done]
          rw [hp]
          exact ⟨fun _ => rfl, fun h => absurd (hs.mpr ⟨reply, rfl, success⟩) h, world⟩
        | false =>
          have hp : (Operation.disableRule name).perform c f w = (f, v) := by
            simp [Operation.perform, disableRule, hrun, inactive, Reply.check, success,
              Act.ofExcept, Act.fail]
          rw [hp]
          exact ⟨fun h => absurd (hs.mp h) (by simp [success]), fun _ => rfl, world⟩

theorem performs (c : Client ν) (op : Operation) (f : Fixtures) (w : World ν) :
    Performs c op f w (op.perform c f w) := by
  cases op with
  | create kind name => exact performs_create c kind name f w
  | disableRule name => exact performs_disableRule c name f w

/-! ## Undoing -/

end HostAccess.Fixtures

namespace HostAccess.Undo

open Client (Message)

/-- The command that undoes a step. Only rules are ever switched on again. -/
def command (u : Undo) : String :=
  match u.undoing, u.kind with
  | .removal, .host => "host_del"
  | .removal, .user => "user_del"
  | .removal, .hostGroup => "hostgroup_del"
  | .removal, .userGroup => "group_del"
  | .removal, .serviceGroup => "hbacsvcgroup_del"
  | .removal, .rule => "hbacrule_del"
  | .enabling, .rule => "hbacrule_enable"
  | .enabling, kind => kind.name ++ "_enable"

/-- What the server is told to undo a step. -/
def message (u : Undo) : Message := ⟨u.command, [.text u.name], []⟩

theorem message_eq (u : Undo) :
    u.message = ⟨Object.method u.kind u.undoing.action, [.text u.name], []⟩ := by
  obtain ⟨kind, undoing, name⟩ := u
  cases undoing <;> cases kind <;> rfl

/-- The error that undoing a step ends with if the server answers in a way. -/
def failure? (u : Undo) (reception : Http.Reception) : Option Error :=
  match Client.checked u.message.method (Client.callEnding reception) with
  | .failed e => some e
  | .done () | .panicked _ => none

end HostAccess.Undo

namespace HostAccess.Fixtures

variable {ν : Type}

/-- With a credential held, undoing a step is one exchange, and what comes of it is what is given
back. -/
theorem undo_of_held {c : Client ν} {w : World ν} {credential : String}
    (held : w.credential = some credential) (u : Undo) :
    ∃ records, undo c u w =
      (.done (u.failure? (c.network.reception (u.message.request c credential) w)),
        (c.network.sent (u.message.request c credential) w).noted records) := by
  let record : Record := ⟨Component.fixture.target, .debug, u.message.method ++ " " ++ u.name⟩
  have hrun : Object.run c u.kind u.undoing.action u.name [] w =
      c.command u.message.method u.message.args u.message.options (w.noted [record]) := by
    simp only [record, u.message_eq]
    rfl
  have hcommand := c.command_message u.message (w := w.noted [record]) held
  rw [Network.reception_noted, Network.sent_noted] at hcommand
  unfold undo Undo.failure?
  simp only [Act.bind_apply, Act.attempt, hrun, hcommand]
  have total := Client.checked_ne_panicked u.message.method
    (c.network.reception (u.message.request c credential) w)
  cases he : Client.checked u.message.method
    (Client.callEnding (c.network.reception (u.message.request c credential) w)) with
  | done => exact ⟨_, by simp only [World.noted_noted]; rfl⟩
  | failed e => exact ⟨_, by simp [Act.note_apply, Undo.message]; rfl⟩
  | panicked p => exact absurd he (total p)

/-- The error of the first step whose undoing fails, if the exchanges come of undoing the steps. -/
def firstFailure (steps : List Undo) (undone : List Http.Exchange) : Option Error :=
  (steps.zip undone).findSome? fun (u, e) => u.failure? e.reception

theorem firstFailure_cons (u : Undo) (e : Http.Exchange) (steps : List Undo)
    (undone : List Http.Exchange) :
    firstFailure (u :: steps) (e :: undone) =
      (u.failure? e.reception).or (firstFailure steps undone) := by
  simp only [firstFailure, List.zip_cons_cons, List.findSome?_cons]
  cases u.failure? e.reception <;> rfl

/-- The requests that undo steps, in order. -/
def undoRequests (c : Client ν) (credential : String) (steps : List Undo) : List Http.Request :=
  steps.map (·.message.request c credential)

/-- With a credential held, undoing steps is one exchange for each, in order. No step is left, and the
first failure is given back. -/
theorem undoAll_of_held {c : Client ν} {w : World ν} {credential : String}
    (held : w.credential = some credential) (steps : List Undo) :
    ∃ v : World ν,
      undoAll c steps w = (.done (firstFailure steps
        (c.network.exchanges (undoRequests c credential steps) w.outside), []), v) ∧
      v.wire = w.wire ++ c.network.exchanges (undoRequests c credential steps) w.outside ∧
      v.outside = c.network.outsideAfter (undoRequests c credential steps) w.outside ∧
      v.credential = w.credential := by
  induction steps generalizing w with
  | nil => exact ⟨w, rfl, by simp [undoRequests, Network.exchanges], rfl, rfl⟩
  | cons u rest ih =>
    obtain ⟨records, hundo⟩ := undo_of_held (c := c) held u
    obtain ⟨v, hrest, wire, outside, kept⟩ :=
      ih (w := (c.network.sent (u.message.request c credential) w).noted records) held
    refine ⟨v, ?_, ?_, outside, kept⟩
    · simp only [undoAll, Act.bind_apply, hundo, hrest, undoRequests, List.map_cons,
        Network.exchanges, firstFailure_cons]
      rfl
    · rw [wire, World.noted_wire, Network.sent_wire, List.append_assoc]
      rfl

end HostAccess.Fixtures
