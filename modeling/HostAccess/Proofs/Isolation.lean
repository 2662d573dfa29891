import HostAccess.Proofs.Course
import HostAccess.Scenario

/-!
# Checks are isolated from one another

A scenario puts one question after another to a harness, directly or as an assertion. If its checker
only looks, then every question is answered as if it were the first: the questions before it leave
worn files, and a check comes to the same from those. What stands in the way of this are links and
other names of a file at the places that the checks write to.
-/
namespace HostAccess.Harness

variable {ν : Type}

/-! ## Questions and reports -/

inductive Question where
  | check (user service : String) (host : Option String)
  | returns (user service : String) (host : Option String)
  | assertReturns (user service : String) (expected : Outcome) (host : Option String)
  | assertAllowed (user service : String) (host : Option String)
  | assertDenied (user service : String) (host : Option String)

namespace Question

def user : Question → String
  | .check user _ _ | .returns user _ _ | .assertReturns user _ _ _ | .assertAllowed user _ _
  | .assertDenied user _ _ => user

def service : Question → String
  | .check _ service _ | .returns _ service _ | .assertReturns _ service _ _
  | .assertAllowed _ service _ | .assertDenied _ service _ => service

def host : Question → Option String
  | .check _ _ host | .returns _ _ host | .assertReturns _ _ _ host | .assertAllowed _ _ host
  | .assertDenied _ _ host => host

/-- What a question is answered with. An assertion that holds has nothing to say. -/
def Value : Question → Type
  | .check .. => Int32
  | .returns .. => Outcome
  | .assertReturns .. | .assertAllowed .. | .assertDenied .. => Unit

def ask (h : Harness ν) : (q : Question) → Act ν q.Value
  | .check user service host => h.check user service host
  | .returns user service host => Scenario.returns h user service host
  | .assertReturns user service expected host =>
    Scenario.assertReturns h user service expected host
  | .assertAllowed user service host => Scenario.assertAllowed h user service host
  | .assertDenied user service host => Scenario.assertDenied h user service host

/-- How an assertion ends when the check for it has ended. -/
def assert (h : Harness ν) (user service : String) (expected : Outcome) (host : Option String) :
    Ending Int32 → Ending Unit
  | .done code =>
    if (Outcome.ofCode code).toCode != expected.toCode then
      .panicked (.mismatch user service (h.effectiveHost host) expected (Outcome.ofCode code))
    else .done ()
  | .failed e => .failed e
  | .panicked p => .panicked p

/-- How a question ends when the check for it has ended. -/
def settle (h : Harness ν) : (q : Question) → Ending Int32 → Ending q.Value
  | .check .., ending => ending
  | .returns .., .done code => .done (Outcome.ofCode code)
  | .returns .., .failed e => .failed e
  | .returns .., .panicked p => .panicked p
  | .assertReturns user service expected host, ending => assert h user service expected host ending
  | .assertAllowed user service host, ending => assert h user service .allowed host ending
  | .assertDenied user service host, ending => assert h user service .denied host ending

theorem assertReturns_eq (h : Harness ν) (user service : String) (expected : Outcome)
    (host : Option String) (w : World ν) :
    Scenario.assertReturns h user service expected host w =
      (assert h user service expected host (h.check user service host w).1,
        (h.check user service host w).2) := by
  unfold Scenario.assertReturns Scenario.returns
  simp only [Act.bind_apply]
  generalize h.check user service host w = checked
  obtain ⟨ending, after⟩ := checked
  cases ending with
  | failed e => rfl
  | panicked p => rfl
  | done code =>
    simp only [Act.pure_apply, assert]
    split <;> rfl

/-- A question is one check, and what becomes of the world is what becomes of it by the check. -/
theorem ask_eq (h : Harness ν) (q : Question) (w : World ν) :
    q.ask h w = (q.settle h (h.check q.user q.service q.host w).1,
      (h.check q.user q.service q.host w).2) := by
  cases q with
  | check user service host => rfl
  | returns user service host =>
    simp only [ask, Scenario.returns, Act.bind_apply, Question.user, Question.service,
      Question.host]
    generalize h.check user service host w = checked
    obtain ⟨ending, after⟩ := checked
    cases ending <;> rfl
  | assertReturns user service expected host => exact assertReturns_eq h user service expected host w
  | assertAllowed user service host => exact assertReturns_eq h user service .allowed host w
  | assertDenied user service host => exact assertReturns_eq h user service .denied host w

/-- What the checker is shown for a question. -/
def shown (h : Harness ν) (q : Question) (w : World ν) : List Sight :=
  (q.ask h.recorded (w.recording [])).2.outside.2.map fun call =>
    h.sight call.user call.service call.found

end Question

/-- How a question ended, and what the checker was shown for it. -/
structure Report (q : Question) where
  ending : Ending q.Value
  shown : List Sight

def Question.report (h : Harness ν) (q : Question) (w : World ν) : Report q :=
  ⟨(q.ask h w).1, q.shown h w⟩

/-- The reports of questions that are put one after another. -/
def reports (h : Harness ν) : List Question → World ν → List ((q : Question) × Report q)
  | [], _ => []
  | q :: rest, w => ⟨q, q.report h w⟩ :: h.reports rest (q.ask h w).2

/-- The world after questions that are put one after another. -/
def afterAll (h : Harness ν) (qs : List Question) (w : World ν) : World ν :=
  qs.foldl (fun w q => (q.ask h w).2) w

section

variable {h : Harness ν} {safe : FileTree → Prop} (lasts : FileTree.Lasts safe)
  (kept : ∀ user service w, safe w.files → safe (h.checker user service w).2.files)

include lasts kept

theorem ask_keeps (q : Question) {w : World ν} (files : safe w.files) : safe (q.ask h w).2.files := by
  obtain ⟨calls, checks, -⟩ := h.check_checks q.user q.service q.host w
  rw [q.ask_eq]
  exact checks.keeps lasts kept files

/-- What lasts while files are written and removed, and is kept by the checker, lasts through any
questions. -/
theorem afterAll_keeps (qs : List Question) {w : World ν} (files : safe w.files) :
    safe (h.afterAll qs w).files := by
  induction qs generalizing w with
  | nil => exact files
  | cons q rest ih => exact ih (ask_keeps lasts kept q files)

end

/-! ## One question -/

section

variable {h : Harness ν} {answer : Sight → Verdict}

theorem plain_of_mem {qs : List Question} {t : FileTree}
    (plain : h.Plain (qs.map Question.service) t) {q : Question} (hq : q ∈ qs) :
    h.Plain [q.service] t :=
  plain.sub fun _ hs => List.mem_map.mpr ⟨q, hq, (List.mem_singleton.mp hs).symm⟩

end

end HostAccess.Harness
