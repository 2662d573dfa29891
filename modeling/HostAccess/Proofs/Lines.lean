import HostAccess.Text.Blank
import HostAccess.Text.Lines
import Mathlib.Data.List.DropRight

/-!
# Lines and trimming

Lines that hold no line feed, each ended by one, are read back as the lines they were but for a
carriage return at their ends. Trimming takes blanks away at both ends and leaves nothing there that
it would take away, so what matters about an end is a single character.
-/
namespace HostAccess.Pieces

variable {α : Type} [DecidableEq α]

theorem split_of_not_mem {sep : α} {xs : List α} (h : sep ∉ xs) : split sep xs = [xs] := by
  induction xs with
  | nil => rfl
  | cons x rest ih =>
    simp only [List.mem_cons, not_or] at h
    rw [split, ih h.2]
    simp [Ne.symm h.1]

/-- A separator parts the pieces before it from those after it. -/
theorem split_concat (sep : α) (xs ys : List α) :
    split sep (xs ++ sep :: ys) = split sep xs ++ split sep ys := by
  induction xs with
  | nil =>
    rw [List.nil_append, split]
    cases hs : split sep ys with
    | nil => exact absurd hs (split_ne_nil sep ys)
    | cons piece pieces => simp [split, hs]
  | cons x rest ih =>
    rw [List.cons_append, split, split, ih]
    cases hs : split sep rest with
    | nil => exact absurd hs (split_ne_nil sep rest)
    | cons piece pieces =>
      simp only [List.cons_append]
      split <;> rfl

theorem split_append {sep : α} {xs : List α} (h : sep ∉ xs) (ys : List α) :
    split sep (xs ++ sep :: ys) = xs :: split sep ys := by
  rw [split_concat, split_of_not_mem h, List.singleton_append]

theorem not_mem_of_mem_split {sep : α} {xs piece : List α} (h : piece ∈ split sep xs) :
    sep ∉ piece := by
  induction xs generalizing piece with
  | nil =>
    obtain rfl : piece = [] := by simpa [split] using h
    simp
  | cons x rest ih =>
    rw [split] at h
    split at h
    · rename_i hnil
      exact absurd hnil (split_ne_nil sep rest)
    · rename_i first others hs
      rw [hs] at ih
      split at h
      · rcases List.mem_cons.mp h with rfl | h
        · simp
        · exact ih h
      · rename_i hx
        rcases List.mem_cons.mp h with rfl | h
        · simp [Ne.symm hx, ih List.mem_cons_self]
        · exact ih (List.mem_cons_of_mem _ h)

end HostAccess.Pieces

namespace HostAccess.Text

/-! ## Splitting in two -/

theorem splitOnce_append {sep : Char} {before : List Char} (h : sep ∉ before) (after : List Char) :
    splitOnce sep (before ++ sep :: after) = some (before, after) := by
  induction before with
  | nil => simp [splitOnce]
  | cons c rest ih =>
    simp only [List.mem_cons, not_or] at h
    simp [splitOnce, Ne.symm h.1, ih h.2]

theorem eq_of_splitOnce {sep : Char} {cs before after : List Char}
    (h : splitOnce sep cs = some (before, after)) : cs = before ++ sep :: after := by
  induction cs generalizing before with
  | nil => cases h
  | cons c rest ih =>
    rw [splitOnce] at h
    split at h
    · rename_i hc
      obtain ⟨rfl, rfl⟩ : [] = before ∧ rest = after := by simpa using h
      simp [hc]
    · obtain ⟨⟨first, second⟩, hs, he⟩ := Option.map_eq_some_iff.mp h
      obtain ⟨rfl, rfl⟩ : c :: first = before ∧ second = after := by simpa using he
      rw [ih hs, List.cons_append]

/-! ## Lines -/

theorem split_ended {ls : List (List Char)} (h : ∀ l ∈ ls, '\n' ∉ l) :
    Pieces.split '\n' (ls.flatMap (· ++ ['\n'])) = ls ++ [[]] := by
  induction ls with
  | nil => rfl
  | cons l rest ih =>
    rw [List.flatMap_cons, List.append_assoc, List.singleton_append,
      Pieces.split_append (h l List.mem_cons_self), ih fun m hm => h m (List.mem_cons_of_mem l hm),
      List.cons_append]

/-- Lines that are ended by line feeds are read back, each without a return at its end. -/
theorem lines_ended {ls : List (List Char)} (h : ∀ l ∈ ls, '\n' ∉ l) :
    lines (ls.flatMap (· ++ ['\n'])) = ls.map dropReturn := by
  simp [lines, split_ended h]

theorem mem_of_mem_dropReturn {c : Char} {l : List Char} (h : c ∈ dropReturn l) : c ∈ l := by
  unfold dropReturn at h
  split at h
  · exact List.dropLast_subset _ h
  · exact h

theorem dropReturn_append (before : List Char) {l : List Char} (h : l ≠ []) :
    dropReturn (before ++ l) = before ++ dropReturn l := by
  unfold dropReturn
  rw [List.getLast?_append_of_ne_nil before h]
  split
  · exact List.dropLast_append_of_ne_nil h
  · rfl

/-- No line holds a line feed. -/
theorem feed_not_mem_line {text line : List Char} (h : line ∈ lines text) : '\n' ∉ line := by
  have ended : line ∈ (Pieces.split '\n' text).dropLast.map dropReturn → '\n' ∉ line := by
    intro hm hfeed
    obtain ⟨piece, hp, rfl⟩ := List.mem_map.mp hm
    exact Pieces.not_mem_of_mem_split (List.dropLast_subset _ hp) (mem_of_mem_dropReturn hfeed)
  simp only [lines] at h
  split at h
  · exact ended h
  · exact ended h
  · rename_i last hlast
    rcases List.mem_append.mp h with h | h
    · exact ended h
    · obtain rfl := List.mem_singleton.mp h
      exact Pieces.not_mem_of_mem_split (List.mem_of_getLast? hlast)

/-! ## Trimming -/

theorem trimStart_cons_blank {c : Char} (h : isBlank c = true) (cs : List Char) :
    trimStart (c :: cs) = trimStart cs := List.dropWhile_cons_of_pos h

theorem trimStart_cons_solid {c : Char} (h : isBlank c = false) (cs : List Char) :
    trimStart (c :: cs) = c :: cs := List.dropWhile_cons_of_neg (by simp [h])

theorem trimEnd_append_blank {c : Char} (h : isBlank c = true) (cs : List Char) :
    trimEnd (cs ++ [c]) = trimEnd cs := List.rdropWhile_concat_pos isBlank cs c h

theorem trim_cons_blank {c : Char} (h : isBlank c = true) (cs : List Char) :
    trim (c :: cs) = trim cs := by
  unfold trim
  rw [trimStart_cons_blank h]

theorem trim_append_blank {c : Char} (h : isBlank c = true) (cs : List Char) :
    trim (cs ++ [c]) = trim cs := by
  induction cs with
  | nil => simp [trim, trimStart, h]
  | cons d rest ih =>
    cases hd : isBlank d with
    | true => rw [List.cons_append, trim_cons_blank hd, trim_cons_blank hd, ih]
    | false =>
      unfold trim
      rw [List.cons_append, trimStart_cons_solid hd, trimStart_cons_solid hd, ← List.cons_append,
        trimEnd_append_blank h]

/-- A return that ends a line is blank, so trimming does not tell whether it was there. -/
theorem trim_dropReturn (l : List Char) : trim (dropReturn l) = trim l := by
  unfold dropReturn
  split
  · rename_i hlast
    obtain ⟨before, rfl⟩ := List.getLast?_eq_some_iff.mp hlast
    rw [List.dropLast_concat, trim_append_blank (by decide)]
  · rfl

/-- A text is what is left of it by trimming, between blanks. -/
theorem trim_between (cs : List Char) :
    ∃ before after, cs = before ++ trim cs ++ after ∧
      (∀ c ∈ before, isBlank c = true) ∧ ∀ c ∈ after, isBlank c = true := by
  refine ⟨cs.takeWhile isBlank, (trimStart cs).rtakeWhile isBlank, ?_,
    fun c hc => List.mem_takeWhile_imp hc, fun c hc => List.mem_rtakeWhile_imp hc⟩
  have hend : trim cs ++ (trimStart cs).rtakeWhile isBlank = trimStart cs :=
    List.rdropWhile_append_rtakeWhile
  rw [List.append_assoc, hend]
  exact List.takeWhile_append_dropWhile.symm

theorem mem_of_mem_trim {c : Char} {cs : List Char} (h : c ∈ trim cs) : c ∈ cs := by
  obtain ⟨before, after, hcs, -, -⟩ := trim_between cs
  rw [hcs]
  simp [h]

theorem trimEnd_cons_solid {c : Char} (h : isBlank c = false) (cs : List Char) :
    trimEnd (c :: cs) = c :: trimEnd cs := by
  induction cs using List.reverseRecOn with
  | nil => exact List.rdropWhile_eq_self_iff.mpr fun _ => by simp [h]
  | append_singleton rest d ih =>
    rw [← List.cons_append]
    cases hd : isBlank d with
    | true => rw [trimEnd_append_blank hd, trimEnd_append_blank hd, ih]
    | false =>
      have keep : ∀ l, trimEnd (l ++ [d]) = l ++ [d] := fun l =>
        List.rdropWhile_concat_neg isBlank l d (by simp [hd])
      rw [keep, keep, List.cons_append]

/-- What is left by trimming has no blank at its ends. -/
theorem trim_trim (cs : List Char) : trim (trim cs) = trim cs := by
  induction cs with
  | nil => rfl
  | cons c rest ih =>
    cases hc : isBlank c with
    | true => rw [trim_cons_blank hc, ih]
    | false =>
      have hend : trimEnd (trimEnd rest) = trimEnd rest := List.rdropWhile_idempotent isBlank rest
      unfold trim
      rw [trimStart_cons_solid hc, trimEnd_cons_solid hc, trimStart_cons_solid hc,
        trimEnd_cons_solid hc, hend]

end HostAccess.Text
