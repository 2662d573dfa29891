import HostAccess.Proofs.Codes
import HostAccess.Proofs.Isolation

/-!
# How assertions end

An assertion is one check, and its ending is that of the check but for the code, which is compared. A
check by a checker that does not panic can still end in a panic, if the host is none that a variable
can hold, and so can an assertion then.
-/
namespace HostAccess.Scenario

open Harness (Question)

variable {ν : Type}

/-- Whether a checker never panics. -/
def IsCalm (checker : Checker ν) : Prop :=
  ∀ user service w text, (checker user service w).1 ≠ .panic text

/-- Once the checker has answered, a check panics only if the checker has panicked. -/
theorem conclusion_panicked_iff (h : Harness ν) (service : String) (verdict : Verdict)
    (t : FileTree) (p : Panic) :
    h.conclusion service verdict t = .panicked p ↔
      ∃ text, verdict = .panic text ∧ p = .stated text := by
  cases verdict with
  | panic text => simp [Harness.conclusion, eq_comm]
  | failure cause => simp [Harness.conclusion]
  | code c =>
    unfold Harness.conclusion
    simp only [reduceCtorEq, false_and, exists_false, iff_false]
    split <;> simp

/-- Against a checker that does not panic, a check panics exactly if the service can be used and the
host cannot be a value of the variable. -/
theorem check_panicked_iff {h : Harness ν} (calm : IsCalm h.checker) (user service : String)
    (host : Option String) (w : World ν) (p : Panic) :
    (h.check user service host w).1 = .panicked p ↔
      service ≠ "" ∧ '/' ∉ service.toList ∧ Char.ofNat 0 ∈ (h.effectiveHost host).toList ∧
        p = .unusableVariable := by
  obtain ⟨calls, checks, -⟩ := h.check_checks user service host w
  have hnul := h.nul_iff host
  rw [← and_assoc, ← Harness.isServiceName_iff]
  generalize (h.check user service host w).1 = ending at checks ⊢
  generalize (h.check user service host w).2 = after at checks
  cases checks with
  | misnamed named => simp [named]
  | unexportable named nul =>
    have held : Char.ofNat 0 ∈ (h.effectiveHost host).toList := by simpa [nul] using hnul
    simp [named, held, eq_comm]
  | unconfigured named nul config => simp [hnul.mp nul]
  | undescribed named nul config description => simp [hnul.mp nul]
  | @asked t u verdict left named nul config description answer =>
    have ending : ∀ text, verdict ≠ .panic text := fun text panicked =>
      calm user service _ text ((congrArg Prod.fst answer).trans panicked)
    rw [conclusion_panicked_iff]
    simp [ending, hnul.mp nul]

section

variable (h : Harness ν) (user service : String) (expected : Outcome) (host : Option String)

theorem assert_done_iff (ending : Ending Int32) :
    Question.assert h user service expected host ending = .done () ↔
      ending = .done expected.toCode := by
  cases ending with
  | done code => simp [Question.assert, Outcome.toCode_ofCode]
  | failed e => simp [Question.assert]
  | panicked p => simp [Question.assert]

theorem assert_failed_iff (ending : Ending Int32) (e : Error) :
    Question.assert h user service expected host ending = .failed e ↔ ending = .failed e := by
  cases ending with
  | done code =>
    simp only [Question.assert]
    split <;> simp
  | failed e => simp [Question.assert]
  | panicked p => simp [Question.assert]

theorem assert_panicked_iff (ending : Ending Int32) (p : Panic) :
    Question.assert h user service expected host ending = .panicked p ↔
      (∃ code, ending = .done code ∧ code ≠ expected.toCode ∧
        p = .mismatch user service (h.effectiveHost host) expected (Outcome.ofCode code)) ∨
      ending = .panicked p := by
  cases ending with
  | done code =>
    simp only [Question.assert, Outcome.toCode_ofCode]
    by_cases same : code = expected.toCode
    · simp [same]
    · rw [if_pos (by simpa using same)]
      simp [same, eq_comm]
  | failed e => simp [Question.assert]
  | panicked q => simp [Question.assert]

end

/-- **How an assertion ends against a checker that does not panic.** It leaves what the check leaves. It
ends without an error exactly if the check ends with the asserted code, and in an error exactly if the
check ends in that error. It panics exactly if the check ends with another code, which it reports, or if
the service can be used and the host holds a NUL. To assert that access is allowed or denied is to
assert the code 0 or 6, and every code can be asserted. -/
theorem assertion_endings {h : Harness ν} (calm : IsCalm h.checker) (user service : String)
    (host : Option String) (w : World ν) :
    (∀ expected,
      (assertReturns h user service expected host w).2 = (h.check user service host w).2 ∧
      ((assertReturns h user service expected host w).1 = .done () ↔
        (h.check user service host w).1 = .done expected.toCode) ∧
      (∀ e, (assertReturns h user service expected host w).1 = .failed e ↔
        (h.check user service host w).1 = .failed e) ∧
      ∀ p, (assertReturns h user service expected host w).1 = .panicked p ↔
        (∃ code, (h.check user service host w).1 = .done code ∧ code ≠ expected.toCode ∧
          p = .mismatch user service (h.effectiveHost host) expected (Outcome.ofCode code)) ∨
        service ≠ "" ∧ '/' ∉ service.toList ∧ Char.ofNat 0 ∈ (h.effectiveHost host).toList ∧
          p = .unusableVariable) ∧
    assertAllowed h user service host = assertReturns h user service (Outcome.ofCode 0) host ∧
    assertDenied h user service host = assertReturns h user service (Outcome.ofCode 6) host ∧
    ∀ code, (Outcome.ofCode code).toCode = code := by
  refine ⟨fun expected => ?_, rfl, rfl, Outcome.toCode_ofCode⟩
  rw [Question.assertReturns_eq]
  refine ⟨rfl, assert_done_iff .., fun e => assert_failed_iff .., fun p => ?_⟩
  rw [assert_panicked_iff, check_panicked_iff calm]

/-- A harness whose checker changes nothing and answers with a code. -/
def answering (code : Int32) : Harness Unit :=
  { Harness.thrownAway with checker := fun _ _ w => (.code code, w) }

theorem isCalm_answering (code : Int32) : IsCalm (answering code).checker := fun _ _ _ _ h => by
  cases h

/-- A denial that was not asserted is reported with what was asserted. -/
theorem assertion_endings_denied :
    IsCalm (answering 6).checker ∧
      (assertReturns (answering 6) "alice" "login" .denied none Harness.prepared).1 = .done () ∧
      (assertReturns (answering 6) "alice" "login" .allowed none Harness.prepared).1 =
        .panicked (.mismatch "alice" "login" "client.ipa.test" .allowed .denied) := by
  have code : ((answering 6).check "alice" "login" none Harness.prepared).1 = .done 6 := by
    have watches : (answering 6).Watches fun _ => .code 6 := fun _ _ _ => rfl
    rw [(Harness.check_course watches "alice" "login" none Harness.prepared).1, Harness.course,
      Harness.isServiceName_login]
    decide +kernel
  obtain ⟨each, -⟩ :=
    assertion_endings (isCalm_answering 6) "alice" "login" none Harness.prepared
  obtain ⟨-, denied, -⟩ := each .denied
  obtain ⟨-, -, -, allowed⟩ := each .allowed
  exact ⟨isCalm_answering 6, denied.mpr code, (allowed _).mpr (.inl ⟨6, code, by decide, rfl⟩)⟩

/-- An assertion for a host that no variable can hold panics though nothing has been decided. -/
theorem assertion_for_nul_host :
    IsCalm (answering 0).checker ∧
      (∀ code, ((answering 0).check "alice" "login" (some "a\x00b") Harness.prepared).1 ≠
        .done code) ∧
      (assertReturns (answering 0) "alice" "login" .allowed (some "a\x00b") Harness.prepared).1 =
        .panicked .unusableVariable := by
  have check : ((answering 0).check "alice" "login" (some "a\x00b") Harness.prepared) =
      (.panicked .unusableVariable, Harness.prepared) :=
    Harness.check_of_unexportable Harness.isServiceName_login (by decide +kernel)
  refine ⟨isCalm_answering 0, by simp [check], ?_⟩
  rw [Question.assertReturns_eq, check]
  rfl

end HostAccess.Scenario
