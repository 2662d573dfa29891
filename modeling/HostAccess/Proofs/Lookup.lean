import HostAccess.Environment

/-!
# Looking up what was set

Files and variables are kept as lists of pairs, of which the first counts. Taking a key away from
such a list changes what is found under that key and nothing else; from this follow the laws of
setting a variable and of putting it back.
-/
namespace HostAccess

theorem lookup_filter_ne {α β : Type} [BEq α] [LawfulBEq α] [DecidableEq α]
    (entries : List (α × β)) (k a : α) :
    (entries.filter (·.1 != k)).lookup a = if a = k then none else entries.lookup a := by
  induction entries with
  | nil => simp
  | cons entry rest ih =>
    obtain ⟨b, v⟩ := entry
    by_cases hb : b = k
    · rw [List.filter_cons_of_neg (by simp [hb]), ih, List.lookup_cons]
      by_cases ha : a = k
      · simp [ha]
      · have hab : (a == b) = false := by simpa [hb] using ha
        simp [ha, hab]
    · rw [List.filter_cons_of_pos (by simpa using hb), List.lookup_cons, ih, List.lookup_cons]
      cases hab : a == b with
      | false => simp
      | true =>
        have hak : a ≠ k := by rw [eq_of_beq hab]; exact hb
        simp [hak]

namespace Environment

theorem get?_unset (e : Environment) (name a : Bytes) :
    (e.unset name).get? a = if a = name then none else e.get? a :=
  lookup_filter_ne e.entries name a

theorem get?_set (e : Environment) (name value a : Bytes) :
    (e.set name value).get? a = if a = name then some value else e.get? a := by
  have hu := get?_unset e name a
  unfold get? at hu ⊢
  simp only [set, List.lookup_cons, hu]
  by_cases ha : a = name
  · simp [ha]
  · have hb : (a == name) = false := by simpa using ha
    simp [ha, hb]

/-- A variable that is put back has the value, or the absence, that it is put back to. -/
theorem get?_restore (e : Environment) (name a : Bytes) (previous : Option Bytes) :
    (e.restore name previous).get? a = if a = name then previous else e.get? a := by
  cases previous with
  | none => exact get?_unset e name a
  | some value => exact get?_set e name value a

end Environment

end HostAccess
