import HostAccess.Proofs.Directory
import HostAccess.Proofs.UndoStack

/-!
# Undoing restores the server

Fixtures keep no copy of what the server keeps. Every step that they remember is the inverse of what
the server did when the step was put on the stack, so that undoing the steps, newest first, leads back
to the directory from which the run began. That is `Restores`, and it holds after every operation.
-/
namespace HostAccess.Fixtures

open Directory (Command)

variable {ν : Type}

/-! ## Steps that lead back -/

/-- Undoing the steps leads from one directory back to another, and no step of it fails. -/
inductive Restores : List Undo → Directory → Directory → Prop
  | nil {d} : Restores [] d d
  | cons {u rest d start} (command : Command) (sent : u.message = command.message)
    (works : command.answer d = .success) (back : Restores rest (command.change d) start) :
    Restores (u :: rest) d start

def Operation.order (c : Client ν) : Operation → Command
  | .create kind name => .add kind (Object.named c.identity kind name).name
  | .disableRule name => .disable name

theorem Operation.order_message (c : Client ν) (op : Operation) :
    (op.order c).message = op.message c := by
  cases op <;> rfl

/-- What the server does for an operation is undone by the step that is remembered for it. -/
theorem Restores.push {c : Client ν} {op : Operation} {steps : List Undo} {d start : Directory}
    (h : Restores steps d start) (works : (op.order c).answer d = .success) :
    Restores (op.undo c :: steps) ((op.order c).change d) start := by
  cases op with
  | create kind name =>
    have absent : d.flag? kind (Object.named c.identity kind name).name = none := by
      simpa [Operation.order, Command.answer] using works
    refine .cons (.del kind (Object.named c.identity kind name).name) (Undo.message_eq _) ?_ ?_
    · simp [Operation.order, Command.answer, Command.change]
    · simp only [Operation.order, Command.change, Directory.put_put absent]
      exact h
  | disableRule name =>
    have on : d.flag? .rule name = some true := by
      simp only [Operation.order, Command.answer] at works
      split at works
      · assumption
      · cases works
      · cases works
    refine .cons (.enable name) (Undo.message_eq _) ?_ ?_
    · simp [Operation.order, Command.answer, Command.change]
    · simp only [Operation.order, Command.change, Directory.put_put on]
      exact h

/-! ## Commands to a server -/

/-- A client holds nothing but credentials that the server accepts. -/
def Known (accepted : String → Prop) (w : World ν) : Prop :=
  ∀ credential ∈ w.credential, accepted credential

/-- With a credential held, a command to a server is answered, and the directory is as it is to be
after it. -/
theorem call_of_serves_held {c : Client ν} {accepted : String → Prop} {view : ν → Directory}
    (server : Serves c accepted view) {w : World ν} {credential : String}
    (held : w.credential = some credential) (known : accepted credential) (command : Command) :
    ∃ reply v, c.call command.message.method command.message.args command.message.options w =
        (.done reply, v) ∧
      (command.answer (view w.outside)).IsSaidBy reply ∧
      view v.outside = command.after (view w.outside) ∧ Known accepted v := by
  obtain ⟨reply, ending, said⟩ := server.answers command credential w.outside known
  have kept := server.commands command credential w.outside known
  rw [c.call_message command.message held]
  refine ⟨reply, _, by rw [Network.reception, ending], said, kept, ?_⟩
  intro x hx
  rw [World.noted_credential, Network.sent_credential, held] at hx
  exact Option.some.inj hx ▸ known

theorem call_of_serves {c : Client ν} {accepted : String → Prop} {view : ν → Directory}
    (server : Serves c accepted view) {w : World ν} (known : Known accepted w) (command : Command) :
    ∃ reply v, c.call command.message.method command.message.args command.message.options w =
        (.done reply, v) ∧
      (command.answer (view w.outside)).IsSaidBy reply ∧
      view v.outside = command.after (view w.outside) ∧ Known accepted v := by
  cases held : w.credential with
  | some credential => exact call_of_serves_held server held (known credential held) command
  | none =>
    obtain ⟨credential, granted, good⟩ := server.grants w.outside
    have same : view (c.loggedIn w).outside = view w.outside := server.logins w.outside
    have now : (c.loggedIn w).credential = some credential := by
      rw [c.loggedIn_credential held]
      exact granted
    rw [c.call_of_granted _ _ _ held granted, ← same]
    exact call_of_serves_held server now good command

/-! ## Runs -/

structure Obeyed (c : Client ν) (accepted : String → Prop) (view : ν → Directory) (op : Operation)
    (w v : World ν) : Prop where
  success : op.Succeeds c w ↔ (op.order c).answer (view w.outside) = .success
  directory : view v.outside = (op.order c).after (view w.outside)
  known : Known accepted v

theorem obeyed {c : Client ν} {accepted : String → Prop} {view : ν → Directory}
    (server : Serves c accepted view) {w : World ν} (known : Known accepted w) (op : Operation)
    (f : Fixtures) : Obeyed c accepted view op w (op.perform c f w).2 := by
  obtain ⟨reply, v, call, said, after, known'⟩ := call_of_serves server known (op.order c)
  rw [op.order_message] at call
  have world : (op.perform c f w).2.silent = v.silent :=
    (performs c op f w).world.trans (by rw [call])
  refine ⟨?_, ?_, ?_⟩
  · rw [← said.isSuccess_iff, succeeds_iff, call]
    simp
  · rw [World.outside_of_silent world, after]
  · intro x hx
    rw [World.credential_of_silent world] at hx
    exact known' x hx

/-- The directory after a run is what the operations make of it, one after another. -/
theorem run_directory {c : Client ν} {accepted : String → Prop} {view : ν → Directory}
    (server : Serves c accepted view) {s : Fixtures × World ν} (known : Known accepted s.2)
    (ops : List Operation) :
    view (run c ops s).2.outside =
      ops.foldl (fun d op => (op.order c).after d) (view s.2.outside) := by
  induction ops generalizing s with
  | nil => rfl
  | cons op rest ih =>
    have o := obeyed server known op s.1
    rw [List.foldl_cons, ← o.directory]
    exact ih (s := op.perform c s.1 s.2) o.known

/-- The state of a run that began from a directory: undoing leads back there, and can be done. -/
structure Restorable (accepted : String → Prop) (view : ν → Directory) (start : Directory)
    (s : Fixtures × World ν) : Prop where
  back : Restores s.1.steps (view s.2.outside) start
  known : Known accepted s.2
  backed : Backed s

theorem Restorable.perform {c : Client ν} {accepted : String → Prop} {view : ν → Directory}
    (server : Serves c accepted view) {start : Directory} {f : Fixtures} {w : World ν}
    (h : Restorable accepted view start (f, w)) (op : Operation) :
    Restorable accepted view start (op.perform c f w) := by
  have p := performs c op f w
  have o := obeyed server h.known op f
  refine ⟨?_, o.known, h.backed.perform op⟩
  rw [o.directory]
  by_cases works : (op.order c).answer (view w.outside) = .success
  · rw [p.success (o.success.mpr works), Command.after, if_pos works]
    exact h.back.push works
  · rw [p.failure (fun h => works (o.success.mp h)), Command.after, if_neg works]
    exact h.back

theorem Restorable.run {c : Client ν} {accepted : String → Prop} {view : ν → Directory}
    (server : Serves c accepted view) {start : Directory} {s : Fixtures × World ν}
    (h : Restorable accepted view start s) (ops : List Operation) :
    Restorable accepted view start (run c ops s) := by
  induction ops generalizing s with
  | nil => exact h
  | cons op rest ih => exact ih (s := op.perform c s.1 s.2) (Restorable.perform server h op)

/-! ## Undoing -/

/-- Steps that lead back lead back on the server, and none of them fails. -/
theorem undone_of_restores {c : Client ν} {accepted : String → Prop} {view : ν → Directory}
    (server : Serves c accepted view) {credential : String} (known : accepted credential)
    {steps : List Undo} {outside : ν} {start : Directory}
    (h : Restores steps (view outside) start) :
    firstFailure steps (c.network.exchanges (undoRequests c credential steps) outside) = none ∧
      view (c.network.outsideAfter (undoRequests c credential steps) outside) = start := by
  generalize hd : view outside = d at h
  -- Along `Restores`: which directory is there between two steps is not seen in the exchanges.
  induction h generalizing outside with
  | nil => exact ⟨rfl, hd⟩
  | @cons u rest d start command sent works back ih =>
    obtain ⟨reply, ending, said⟩ := server.answers command credential outside known
    have after := server.commands command credential outside known
    rw [hd] at said after
    rw [Command.after, if_pos works] at after
    obtain ⟨others, led⟩ := ih after
    have success : reply.isSuccess = true := said.isSuccess_iff.mpr works
    have first : u.failure? (c.network (command.message.request c credential) outside).1 = none := by
      simp [Undo.failure?, ending, Client.checked, Reply.check, success]
    simp only [undoRequests, List.map_cons, Network.exchanges, Network.outsideAfter,
      firstFailure_cons, sent, first]
    exact ⟨others, led⟩

/-- A teardown and a drop lead back, and a teardown has no failure to report. -/
theorem ends_of_restorable {c : Client ν} {accepted : String → Prop} {view : ν → Directory}
    (server : Serves c accepted view) {start : Directory} {f : Fixtures} {w : World ν}
    (h : Restorable accepted view start (f, w)) :
    (f.teardown c w).1 = .done () ∧ view (f.teardown c w).2.outside = start ∧
      view (f.drop c w).2.outside = start := by
  obtain ⟨back, known, backed⟩ := h
  by_cases none : f.steps = []
  · have same : view w.outside = start := by
      simp only [none] at back
      cases back
      rfl
    rw [teardown_of_undoAll (undoAll_of_nil c none w), drop_of_nil c none w]
    exact ⟨rfl, same, same⟩
  · obtain ⟨credential, held⟩ := Option.ne_none_iff_exists'.mp (backed none)
    obtain ⟨v, hv, -, outside, -⟩ := undoAll_of_held (c := c) held f.steps
    obtain ⟨v', hv', -, outside', -⟩ :=
      undoAll_of_held (c := c) (w := w.noted [f.leftover]) held f.steps
    obtain ⟨success, led⟩ := undone_of_restores server (known credential held) back
    rw [teardown_of_undoAll hv, drop_of_undoAll none hv', success]
    exact ⟨rfl, outside ▸ led, outside' ▸ led⟩

/-- **Undoing restores the server, after every run of operations.** If a server is behind the network
and the client holds no credential that it does not accept, then a teardown and a drop both leave it
with the directory that it had before the run, and the teardown ends without an error. -/
theorem teardown_restores {c : Client ν} {accepted : String → Prop} {view : ν → Directory}
    (server : Serves c accepted view) {w : World ν} (known : Known accepted w)
    (ops : List Operation) :
    ((run c ops (empty, w)).1.teardown c (run c ops (empty, w)).2).1 = .done () ∧
      view ((run c ops (empty, w)).1.teardown c (run c ops (empty, w)).2).2.outside =
        view w.outside ∧
      view ((run c ops (empty, w)).1.drop c (run c ops (empty, w)).2).2.outside =
        view w.outside := by
  have fresh : Restorable accepted view (view w.outside) (empty, w) :=
    ⟨.nil, known, fun h => absurd rfl h⟩
  exact ends_of_restorable server (fresh.run server ops)

def served : Client Directory :=
  ⟨.forTests, "https://ipa.ipa.test", Directory.server "https://ipa.ipa.test"⟩

/-- A directory of one rule, which counts. -/
def allowAll : Directory :=
  ⟨fun kind name => if kind = .rule ∧ name = "allow_all" then some true else none⟩

/-- A run that switches the rule off twice, creates it in vain, and creates other objects. -/
def meddling : List Operation :=
  [.disableRule "allow_all", .create .rule "allow_all", .disableRule "allow_all",
    .create .rule "guests", .disableRule "guests", .create .host "client", .create .user "alice"]

theorem teardown_restores_allow_all :
    Serves served (· = Directory.granted) (fun d => d) ∧
      Known (· = Directory.granted) (World.blank allowAll) ∧
      (run served meddling (empty, World.blank allowAll)).2.outside.flag? .rule "allow_all" =
        some false ∧
      ((run served meddling (empty, World.blank allowAll)).1.teardown served
        (run served meddling (empty, World.blank allowAll)).2).1 = .done () ∧
      ((run served meddling (empty, World.blank allowAll)).1.teardown served
        (run served meddling (empty, World.blank allowAll)).2).2.outside = allowAll ∧
      ((run served meddling (empty, World.blank allowAll)).1.drop served
        (run served meddling (empty, World.blank allowAll)).2).2.outside = allowAll := by
  have server : Serves served (· = Directory.granted) (fun d => d) := Directory.server_serves rfl
  have known : Known (· = Directory.granted) (World.blank allowAll) := by simp [Known, World.blank]
  refine ⟨server, known, ?_, teardown_restores server known meddling⟩
  have directory := run_directory server (s := (empty, World.blank allowAll)) known meddling
  rw [directory]
  decide +kernel

end HostAccess.Fixtures
