import HostAccess.Outcome

/-!
# Codes and their names

A code that has been given a name is found again under it, whether it is named as a result of PAM or
as what an account check decides. The other way round a name is found again from its code, unless it
only keeps as a number a code that has a name of its own.
-/
namespace HostAccess

namespace Pam.Result

theorem code_ofCode (c : Int32) : (ofCode c).code = c := by
  unfold ofCode
  split <;> first | rfl | exact Int32.toInt_inj.mp (Eq.symm ‹_›)

/-- Whether a code has a name of its own. -/
def IsNamed (c : Int32) : Prop := 0 ≤ c.toInt ∧ c.toInt ≤ 29

theorem ofCode_of_not_named {c : Int32} (h : ¬ IsNamed c) : ofCode c = .unknown c := by
  unfold IsNamed at h
  unfold ofCode
  split <;> first | rfl | omega

theorem not_named_of_ofCode {c d : Int32} (h : ofCode c = .unknown d) : ¬ IsNamed c := by
  rintro ⟨low, high⟩
  unfold ofCode at h
  -- Every name is another result, and what is left has none of the thirty codes.
  split at h <;> grind

theorem ofCode_code_ne_iff (r : Result) :
    ofCode r.code ≠ r ↔ ∃ c, r = .unknown c ∧ IsNamed c := by
  cases r with
  | unknown c =>
    have kept : ofCode c ≠ .unknown c ↔ IsNamed c :=
      ⟨fun h => Classical.not_not.mp (mt ofCode_of_not_named h),
        fun named same => not_named_of_ofCode same named⟩
    simpa [code] using kept
  | _ => exact iff_of_false (fun h => h rfl) (by simp)

end Pam.Result

namespace Outcome

theorem toCode_ofCode (c : Int32) : (ofCode c).toCode = c := by
  have named := Pam.Result.code_ofCode c
  unfold ofCode
  split
  · rename_i success
    rw [success] at named
    exact named
  · rename_i permissionDenied
    rw [permissionDenied] at named
    exact named
  · rename_i userUnknown
    rw [userUnknown] at named
    exact named
  · rfl

theorem ofCode_toCode_ne_iff (o : Outcome) :
    ofCode o.toCode ≠ o ↔ ∃ c, o = .code c ∧ (c = 0 ∨ c = 6 ∨ c = 10) := by
  cases o with
  | code c =>
    have named : ofCode c ≠ .code c ↔ c = 0 ∨ c = 6 ∨ c = 10 := by
      constructor
      · intro h
        have code := Pam.Result.code_ofCode c
        unfold ofCode at h
        split at h
        · rename_i success
          exact .inl (code.symm.trans (congrArg Pam.Result.code success))
        · rename_i permissionDenied
          exact .inr (.inl (code.symm.trans (congrArg Pam.Result.code permissionDenied)))
        · rename_i userUnknown
          exact .inr (.inr (code.symm.trans (congrArg Pam.Result.code userUnknown)))
        · exact absurd rfl h
      · rintro (rfl | rfl | rfl) <;> decide
    simpa [toCode] using named
  | _ => exact iff_of_false (fun h => h rfl) (by simp)

end Outcome

end HostAccess
