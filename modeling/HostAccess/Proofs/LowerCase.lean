import HostAccess.Text.Case

/-!
# What is in lower case stays as it is

No character that a text in lower case holds is mapped to another, wherever it stands. So the lower
case of a text that ends in lower case ends the same, whatever comes before.
-/
namespace HostAccess.Text

namespace Case

/-! ## The table -/

/-- Whether nothing that a run maps to is mapped by another. Most runs are clear of each other; where
two are not, every image is looked at. -/
def Run.avoids (r other : Run) : Bool :=
  r.image + (r.last - r.first) < other.first || other.last < r.image ||
    (List.range (r.last - r.first + 1)).all fun i =>
      !r.covers (r.first + i) || !other.covers (r.image + i)

theorem Run.not_covers_of_avoids {r other : Run} (h : r.avoids other = true) {n : Nat}
    (hn : r.covers n = true) : other.covers (r.image + (n - r.first)) = false := by
  have bounds := hn
  simp only [Run.covers, Bool.and_eq_true, decide_eq_true_eq] at bounds
  obtain ⟨⟨first, last⟩, -⟩ := bounds
  simp only [Run.avoids, Bool.or_eq_true, decide_eq_true_eq] at h
  obtain (below | above) | each := h
  · simp only [Run.covers, Bool.and_eq_false_iff, decide_eq_false_iff_not]
    omega
  · simp only [Run.covers, Bool.and_eq_false_iff, decide_eq_false_iff_not]
    omega
  · have image := List.all_eq_true.mp each (n - r.first) (List.mem_range.mpr (by omega))
    rw [Nat.add_sub_cancel' first] at image
    simpa [hn] using image

/-- The capital whose lower case is two characters, which is not in the table. -/
def dotted : Run := ⟨0x130, 0x130, 1, 0x69⟩

theorem lowerRuns_avoid : ∀ r ∈ lowerRuns, ∀ other ∈ dotted :: lowerRuns, r.avoids other = true := by
  have all : (lowerRuns.all fun r => (dotted :: lowerRuns).all r.avoids) = true := by decide +kernel
  exact fun r hr other ho => List.all_eq_true.mp (List.all_eq_true.mp all r hr) other ho

theorem image?_eq_none_iff {runs : List Run} {n : Nat} :
    image? runs n = none ↔ ∀ r ∈ runs, r.covers n = false := by
  simp [image?]

/-! ## Characters -/

/-- Whether a character is its own lower case wherever it stands. -/
structure IsLow (c : Char) : Prop where
  notSigma : c ≠ 'Σ'
  kept : lowerChar c = [c]

theorem isLow_of_image? {c : Char} (h : image? lowerRuns c.toNat = none) (hd : c ≠ 'İ') :
    IsLow c := by
  refine ⟨?_, by simp [lowerChar, hd, h]⟩
  rintro rfl
  exact absurd h (by decide)

/-- What the table maps to is not mapped again. -/
theorem isLow_of_image?_eq_some {c : Char} {n : Nat} (h : image? lowerRuns c.toNat = some n) :
    IsLow (Char.ofNat n) := by
  obtain ⟨r, hfind, rfl⟩ := Option.map_eq_some_iff.mp h
  have covered : r.covers c.toNat = true := by simpa using List.find?_some hfind
  have clear : ∀ other ∈ dotted :: lowerRuns,
      other.covers (r.image + (c.toNat - r.first)) = false := fun other ho =>
    Run.not_covers_of_avoids (lowerRuns_avoid r (List.mem_of_find?_eq_some hfind) other ho) covered
  generalize r.image + (c.toNat - r.first) = m at clear
  by_cases valid : m.isValidChar
  · have code : (Char.ofNat m).toNat = m := by
      unfold Char.ofNat
      rw [dif_pos valid]
      rfl
    refine isLow_of_image? ?_ fun hd => ?_
    · rw [code, image?_eq_none_iff]
      exact fun other ho => clear other (List.mem_cons_of_mem _ ho)
    · have hm : m = 0x130 := by rw [← code, hd]; rfl
      exact absurd (clear dotted List.mem_cons_self) (by rw [hm]; decide)
  · have hnul : Char.ofNat m = Char.ofNat 0 := by
      unfold Char.ofNat
      rw [dif_neg valid]
      rfl
    rw [hnul]
    exact isLow_of_image? (by decide) (by decide)

theorem isLow_of_mem_lowerChar {c d : Char} (hs : c ≠ 'Σ') (h : d ∈ lowerChar c) : IsLow d := by
  unfold lowerChar at h
  split at h
  · simp only [List.mem_cons, List.not_mem_nil, or_false] at h
    obtain rfl | rfl := h
    · exact isLow_of_image? (by decide) (by decide)
    · exact isLow_of_image? (by decide) (by decide)
  · rename_i hd
    split at h
    · rename_i n image
      obtain rfl := List.mem_singleton.mp h
      exact isLow_of_image?_eq_some image
    · rename_i unmapped
      obtain rfl := List.mem_singleton.mp h
      exact isLow_of_image? unmapped hd

/-- Either form of a sigma in lower case is kept. -/
theorem isLow_finalSigma (before after : List Char) : IsLow (finalSigma before after) := by
  unfold finalSigma
  split
  · exact isLow_of_image? (by decide) (by decide)
  · exact isLow_of_image? (by decide) (by decide)

/-! ## Texts -/

theorem isLow_of_mem_lowerAfter {before cs : List Char} {d : Char} (h : d ∈ lowerAfter before cs) :
    IsLow d := by
  induction cs generalizing before with
  | nil => cases h
  | cons c rest ih =>
    rw [lowerAfter] at h
    obtain first | later := List.mem_append.mp h
    · split at first
      · obtain rfl := List.mem_singleton.mp first
        exact isLow_finalSigma before rest
      · rename_i hs
        exact isLow_of_mem_lowerChar hs first
    · exact ih later

theorem lowerAfter_of_isLow {cs : List Char} (h : ∀ c ∈ cs, IsLow c) (before : List Char) :
    lowerAfter before cs = cs := by
  induction cs generalizing before with
  | nil => rfl
  | cons c rest ih =>
    have low := h c List.mem_cons_self
    rw [lowerAfter, if_neg low.notSigma, low.kept, ih fun d hd => h d (List.mem_cons_of_mem c hd)]
    rfl

/-- What follows has a say in the lower case of what comes before it, but not the other way round, if
it is in lower case already. -/
theorem lowerAfter_append {more : List Char} (h : ∀ c ∈ more, IsLow c) (before cs : List Char) :
    ∃ front, lowerAfter before (cs ++ more) = front ++ more := by
  induction cs generalizing before with
  | nil => exact ⟨[], lowerAfter_of_isLow h before⟩
  | cons c rest ih =>
    obtain ⟨front, hfront⟩ := ih (c :: before)
    rw [List.cons_append, lowerAfter, hfront, ← List.append_assoc]
    exact ⟨_, rfl⟩

end Case

theorem isLow_of_mem_lower {s : String} {c : Char} (h : c ∈ (lower s).toList) : Case.IsLow c := by
  rw [lower, String.toList_ofList] at h
  exact Case.isLow_of_mem_lowerAfter h

/-- **A text that ends in lower case ends the same in lower case**, whatever comes before. -/
theorem suffix_lower_append {ending : String} (h : ∀ c ∈ ending.toList, Case.IsLow c) (s : String) :
    ending.toList <:+ (lower (s ++ ending)).toList := by
  obtain ⟨front, hfront⟩ := Case.lowerAfter_append h [] s.toList
  refine ⟨front, ?_⟩
  rw [lower, String.toList_ofList, String.toList_append, hfront]

end HostAccess.Text
