import HostAccess.Proofs.Assertions

/-!
# Codes in texts

The text of a result ends with its code in brackets. The words before it may hold brackets as well, but
the last opening one is that of the code, so the code can be read off the text: what was expected of an
account check and what was observed never read alike when they differ.
-/
namespace HostAccess

/-! ## Numbers by their digits -/

theorem isDigit_of_mem_repr {n : Nat} {c : Char} (h : c ∈ n.repr.toList) : c.isDigit := by
  rw [Nat.toList_repr] at h
  exact Nat.isDigit_of_mem_toDigits (by decide) (by decide) h

theorem bracket_not_mem_repr (i : Int) : '(' ∉ i.repr.toList := by
  have digits (n : Nat) : '(' ∉ n.repr.toList := fun h =>
    absurd (isDigit_of_mem_repr h) (by decide)
  cases i with
  | ofNat n => exact digits n
  | negSucc n =>
    rw [Int.repr, String.toList_append, List.mem_append]
    exact not_or.mpr ⟨by decide, digits _⟩

theorem eq_of_natRepr_eq {m n : Nat} (h : m.repr = n.repr) : m = n := by
  have digits : Nat.toDigits 10 m = Nat.toDigits 10 n := by
    rw [← Nat.toList_repr, ← Nat.toList_repr, h]
  calc
    m = Nat.ofDigitChars 10 (Nat.toDigits 10 m) 0 := by simp
    _ = Nat.ofDigitChars 10 (Nat.toDigits 10 n) 0 := by rw [digits]
    _ = n := by simp

/-- The sign of a number below zero is no digit. -/
theorem natRepr_ne_minus (m n : Nat) : m.repr ≠ "-" ++ n.repr := by
  intro h
  have sign : '-' ∈ m.repr.toList := by
    rw [h, String.toList_append]
    exact List.mem_append_left _ (by decide)
  exact absurd (isDigit_of_mem_repr sign) (by decide)

theorem eq_of_repr_eq {i j : Int} (h : i.repr = j.repr) : i = j := by
  cases i with
  | ofNat m =>
    cases j with
    | ofNat n => exact congrArg Int.ofNat (eq_of_natRepr_eq h)
    | negSucc n => exact absurd h (natRepr_ne_minus m _)
  | negSucc m =>
    cases j with
    | ofNat n => exact absurd h.symm (natRepr_ne_minus n _)
    | negSucc n =>
      have digits : (m + 1).repr = (n + 1).repr := (String.append_right_inj "-").mp h
      exact congrArg Int.negSucc (Nat.succ.inj (eq_of_natRepr_eq digits))

namespace Pam.Result

/-! ## The code at the end of a text -/

/-- What a text says after its last opening bracket, less the character that ends it. -/
def closing (text : String) : String :=
  String.ofList ((text.toList.reverse.drop 1).takeWhile (· ≠ '(')).reverse

/-- Whatever stands before a number in brackets, the number is what the text closes with. -/
theorem closing_append (words : String) (i : Int) :
    closing (words ++ " (" ++ toString i ++ ")") = i.repr := by
  -- A number holds no bracket, so going back from the end one comes to the bracket before it first.
  have front : ((words ++ " (" ++ toString i ++ ")").toList.reverse.drop 1).takeWhile (· ≠ '(') =
      i.repr.toList.reverse := by
    have plain : ∀ c ∈ i.repr.toList.reverse, decide (c ≠ '(') = true := by
      intro c hc
      exact decide_eq_true fun same => bracket_not_mem_repr i (same ▸ List.mem_reverse.mp hc)
    have ends : (words ++ " (" ++ toString i ++ ")").toList.reverse =
        ')' :: (i.repr.toList.reverse ++ '(' :: ' ' :: words.toList.reverse) := by
      simp [Int.toString_eq_repr]
    rw [ends, List.drop_one, List.tail_cons, List.takeWhile_append_of_pos plain]
    simp
  rw [closing, front, List.reverse_reverse, String.ofList_toList]

theorem closing_render (r : Result) : closing r.render = r.code.toInt.repr :=
  closing_append r.describe r.code.toInt

/-- Results that read alike have one code. -/
theorem code_eq_of_render_eq {r s : Result} (h : r.render = s.render) : r.code = s.code := by
  have same := congrArg closing h
  rw [closing_render, closing_render] at same
  exact Int32.toInt_inj.mp (eq_of_repr_eq same)

end Pam.Result

namespace Outcome

/-- Outcomes read alike exactly if they have one code. -/
theorem render_eq_iff (o p : Outcome) : o.render = p.render ↔ o.toCode = p.toCode := by
  constructor
  · intro h
    have same := Pam.Result.code_eq_of_render_eq h
    rwa [Pam.Result.code_ofCode, Pam.Result.code_ofCode] at same
  · intro h
    rw [render, render, h]

end Outcome

namespace Scenario

open Harness (Question)

/-! ## Reports of mismatches -/

variable {ν : Type} (h : Harness ν) (user service : String) (host : Option String)

/-- A check by itself never speaks of a mismatch, however its checker panics. -/
theorem check_ne_mismatch (w : World ν) (u s n : String) (expected observed : Outcome) :
    (h.check user service host w).1 ≠ .panicked (.mismatch u s n expected observed) := by
  obtain ⟨calls, checks, -⟩ := h.check_checks user service host w
  generalize (h.check user service host w).1 = ending at checks ⊢
  generalize (h.check user service host w).2 = after at checks
  cases checks with
  | asked named nul config description answer =>
    rw [Ne, conclusion_panicked_iff]
    simp
  | _ => simp

theorem observed_of_mismatch {expected : Outcome} {w : World ν} {u s n : String} {e o : Outcome}
    (ended : (assertReturns h user service expected host w).1 = .panicked (.mismatch u s n e o)) :
    e = expected ∧ o.toCode ≠ e.toCode := by
  rw [Question.assertReturns_eq] at ended
  obtain ⟨code, -, differs, same⟩ | checked :=
    (assert_panicked_iff h user service expected host _ _).mp ended
  · obtain ⟨rfl, rfl, rfl, rfl, rfl⟩ := Panic.mismatch.inj same
    exact ⟨rfl, by rwa [Outcome.toCode_ofCode]⟩
  · exact absurd checked (check_ne_mismatch h user service host w u s n e o)

end Scenario

/-- **Codes are never confused.** A code is the code of what it is named, both as a result and as an
outcome. A result is what its code is named exactly if it is what some code is named, that is, unless
it keeps a code with a name as a number; and so is an outcome. Outcomes read alike exactly if they have
one code, so an assertion that panics for what was observed shows a text for it that is not the one for
what was expected. -/
theorem Outcome.codes_told_apart :
    (∀ c, (Pam.Result.ofCode c).code = c ∧ (ofCode c).toCode = c) ∧
    (∀ r : Pam.Result,
      (Pam.Result.ofCode r.code = r ↔ ∃ c, Pam.Result.ofCode c = r) ∧
      (Pam.Result.ofCode r.code ≠ r ↔ ∃ c, r = .unknown c ∧ Pam.Result.IsNamed c)) ∧
    (∀ o : Outcome,
      (ofCode o.toCode = o ↔ ∃ c, ofCode c = o) ∧
      (ofCode o.toCode ≠ o ↔ ∃ c, o = .code c ∧ (c = 0 ∨ c = 6 ∨ c = 10))) ∧
    (∀ o p : Outcome, o.render = p.render ↔ o.toCode = p.toCode) ∧
    ∀ {ν : Type} (h : Harness ν) (user service : String) (host : Option String)
      (expected : Outcome) (w : World ν) (u s n : String) (e o : Outcome),
      (Scenario.assertReturns h user service expected host w).1 =
          .panicked (.mismatch u s n e o) →
        e = expected ∧ e.render ≠ o.render ∧
          ∃ before, (Panic.mismatch u s n e o).message =
            before ++ ": expected " ++ e.render ++ ", observed " ++ o.render := by
  refine ⟨fun c => ⟨Pam.Result.code_ofCode c, toCode_ofCode c⟩,
    fun r => ⟨⟨fun named => ⟨_, named⟩, ?_⟩, Pam.Result.ofCode_code_ne_iff r⟩,
    fun o => ⟨⟨fun named => ⟨_, named⟩, ?_⟩, ofCode_toCode_ne_iff o⟩, render_eq_iff, ?_⟩
  · rintro ⟨c, rfl⟩
    rw [Pam.Result.code_ofCode]
  · rintro ⟨c, rfl⟩
    rw [toCode_ofCode]
  · intro ν h user service host expected w u s n e o ended
    obtain ⟨same, differs⟩ := Scenario.observed_of_mismatch h user service host ended
    exact ⟨same, fun alike => differs ((render_eq_iff e o).mp alike).symm, _, rfl⟩

/-- Two codes without names that differ by the sign alone share their words, but not their texts. -/
theorem Outcome.codes_told_apart_by_sign :
    (Scenario.assertReturns (Scenario.answering (-77)) "alice" "login" (.code 77) none
        Harness.prepared).1 =
      .panicked (.mismatch "alice" "login" "client.ipa.test" (.code 77) (.code (-77))) ∧
      (Outcome.code 77).render ≠ (Outcome.code (-77)).render := by
  have code : ((Scenario.answering (-77)).check "alice" "login" none Harness.prepared).1 =
      .done (-77) := by
    have watches : (Scenario.answering (-77)).Watches fun _ => .code (-77) := fun _ _ _ => rfl
    rw [(Harness.check_course watches "alice" "login" none Harness.prepared).1, Harness.course,
      Harness.isServiceName_login]
    decide +kernel
  have ended : (Scenario.assertReturns (Scenario.answering (-77)) "alice" "login" (.code 77) none
      Harness.prepared).1 =
        .panicked (.mismatch "alice" "login" "client.ipa.test" (.code 77) (.code (-77))) := by
    rw [Harness.Question.assertReturns_eq, code]
    decide +kernel
  obtain ⟨-, -, -, -, reports⟩ := codes_told_apart
  obtain ⟨-, differ, -⟩ := reports _ _ _ _ _ _ _ _ _ _ _ ended
  exact ⟨ended, differ⟩

end HostAccess
