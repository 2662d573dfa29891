import HostAccess.Proofs.Fixtures

/-!
# The undo stack is exact

The steps that fixtures remember are those whose commands succeeded, newest first. Undoing sends one
command for each of them in that order, whatever comes of the others, and reports the first failure.
-/
namespace HostAccess.Fixtures

variable {ν : Type}

/-! ## The steps that are remembered -/

/-- The steps after a run are those that undo the operations that succeeded, on top of those before. -/
theorem run_steps (c : Client ν) (ops : List Operation) (s : Fixtures × World ν) :
    (run c ops s).1.steps = ((succeeded c ops s).map (·.undo c)).reverse ++ s.1.steps := by
  induction ops generalizing s with
  | nil => simp [run, succeeded]
  | cons op rest ih =>
    obtain ⟨f, w⟩ := s
    have p := performs c op f w
    rw [run, ih, succeeded]
    by_cases h : op.Succeeds c w
    · simp [h, p.success h]
    · simp [h, p.failure h]

def Backed (s : Fixtures × World ν) : Prop := s.1.steps ≠ [] → s.2.credential ≠ none

theorem Backed.perform {c : Client ν} {f : Fixtures} {w : World ν} (h : Backed (f, w))
    (op : Operation) : Backed (op.perform c f w) := by
  have p := performs c op f w
  intro steps
  rw [World.credential_of_silent p.world]
  by_cases success : op.Succeeds c w
  · exact c.call_credential _ _ _ w (.inr ((succeeds_iff c op w).mp success))
  · rw [p.failure success] at steps
    exact c.call_credential _ _ _ w (.inl (h steps))

theorem Backed.run {c : Client ν} {s : Fixtures × World ν} (h : Backed s) (ops : List Operation) :
    Backed (run c ops s) := by
  induction ops generalizing s with
  | nil => exact h
  | cons op rest ih => exact ih (s := op.perform c s.1 s.2) (h.perform op)

/-! ## Undoing them -/

/-- How a teardown ends if undoing has failed in a way or not at all. -/
def reported : Option Error → Ending Unit
  | none => .done ()
  | some e => .failed e

theorem reported_done_iff (steps : List Undo) (undone : List Http.Exchange) :
    reported (firstFailure steps undone) = .done () ↔
      ∀ p ∈ steps.zip undone, p.1.failure? p.2.reception = none := by
  rw [← List.findSome?_eq_none_iff]
  change reported (firstFailure steps undone) = .done () ↔ firstFailure steps undone = none
  cases firstFailure steps undone <;> simp [reported]

/-- What undoing does that makes the exchanges `undone`: there is one for each step, in order, no step
is left, and a teardown tells of the first failure, while a drop does the same and tells nobody. -/
structure Undoes (c : Client ν) (f : Fixtures) (w : World ν) (credential : String)
    (undone : List Http.Exchange) : Prop where
  held : f.steps ≠ [] → w.credential = some credential
  requests : undone.map (·.request) = undoRequests c credential f.steps
  left : (undoAll c f.steps w).1 = .done (firstFailure f.steps undone, [])
  torn : (f.teardown c w).2.wire = w.wire ++ undone
  dropped : (f.drop c w).2.wire = w.wire ++ undone
  report : (f.teardown c w).1 = reported (firstFailure f.steps undone)
  success : (f.teardown c w).1 = .done () ↔
    ∀ p ∈ f.steps.zip undone, p.1.failure? p.2.reception = none
  silence : (f.drop c w).1 = .done ()

theorem teardown_of_undoAll {c : Client ν} {f : Fixtures} {w v : World ν} {failure : Option Error}
    (h : undoAll c f.steps w = (.done (failure, []), v)) :
    f.teardown c w = (reported failure, v) := by
  simp only [teardown, Act.bind_apply, h, drop]
  cases failure <;> rfl

theorem undoAll_of_nil (c : Client ν) {f : Fixtures} (none : f.steps = []) (w : World ν) :
    undoAll c f.steps w = (.done (Option.none, []), w) := by
  rw [none]
  rfl

theorem drop_of_nil (c : Client ν) {f : Fixtures} (none : f.steps = []) (w : World ν) :
    f.drop c w = (.done (), w) := by
  simp [drop, none]

def leftover (f : Fixtures) : Record :=
  ⟨Component.fixture.target, .info,
    "undoing " ++ toString f.steps.length ++ " leftover fixture steps"⟩

theorem drop_of_undoAll {c : Client ν} {f : Fixtures} {w v : World ν} {failure : Option Error}
    (steps : f.steps ≠ [])
    (h : undoAll c f.steps (w.noted [f.leftover]) = (.done (failure, []), v)) :
    f.drop c w = (.done (), v) := by
  have hf : ¬ f.steps.isEmpty = true := by simpa using steps
  have hn : Act.note .fixture .info
      ("undoing " ++ toString f.steps.length ++ " leftover fixture steps") w =
        (.done (), w.noted [f.leftover]) := rfl
  unfold drop
  rw [if_neg hf]
  simp only [Act.bind_apply, hn, h]
  rfl

theorem undoes_of_backed {c : Client ν} {f : Fixtures} {w : World ν} (h : Backed (f, w)) :
    ∃ credential undone, Undoes c f w credential undone := by
  by_cases none : f.steps = []
  · have all := undoAll_of_nil c none w
    have torn := teardown_of_undoAll all
    refine ⟨"", [], fun h => absurd none h, by rw [none]; rfl, ?_, ?_, ?_, ?_, ?_, ?_⟩
    · rw [all, none]
      rfl
    · simp [torn]
    · simp [drop_of_nil c none]
    · rw [torn, none]
      rfl
    · rw [torn, none]
      simp [reported]
    · rw [drop_of_nil c none]
  · obtain ⟨credential, held⟩ := Option.ne_none_iff_exists'.mp (h none)
    obtain ⟨v, hv, wire, -, -⟩ := undoAll_of_held (c := c) held f.steps
    -- A drop writes a line down first, so it undoes the steps from another world than a teardown.
    obtain ⟨v', hv', wire', -, -⟩ :=
      undoAll_of_held (c := c) (w := w.noted [f.leftover]) held f.steps
    have torn := teardown_of_undoAll hv
    have dropped := drop_of_undoAll none hv'
    refine ⟨credential, _, fun _ => held, c.network.exchanges_requests _ w.outside, ?_, ?_, ?_, ?_,
      ?_, ?_⟩
    · rw [hv]
    · rw [torn]
      exact wire
    · rw [dropped]
      exact wire'
    · rw [torn]
    · rw [torn]
      exact reported_done_iff f.steps _
    · rw [dropped]

/-- **The undo stack is exact, over every run of operations that begins without steps.** Whatever the
server answers, the steps are those of the operations whose commands succeeded, newest first, and
undoing them does what `Undoes` says. -/
theorem undo_stack (c : Client ν) (ops : List Operation) (w : World ν) :
    (run c ops (empty, w)).1.steps = ((succeeded c ops (empty, w)).map (·.undo c)).reverse ∧
      ∃ credential undone,
        Undoes c (run c ops (empty, w)).1 (run c ops (empty, w)).2 credential undone := by
  have backed : Backed (run c ops (empty, w)) :=
    Backed.run (s := (empty, w)) (fun h => absurd rfl h) ops
  refine ⟨?_, undoes_of_backed backed⟩
  rw [run_steps]
  exact List.append_nil _

end HostAccess.Fixtures
