import HostAccess.Proofs.Listing
import HostAccess.Settings
import Mathlib.Data.List.Basic

/-!
# The base of a domain

The base of the directory of a domain says the labels of the domain, in their order, and nothing else:
dots that follow each other, or that stand at an end, leave no trace. Parts of a base are told apart by
commas, so the labels are read back from it if the domain holds none. Domains that are put together by a
dot have bases that are put together by a comma.
-/
namespace HostAccess

theorem Pieces.split_eq_splitOn {α : Type} [DecidableEq α] (sep : α) (xs : List α) :
    split sep xs = xs.splitOn sep := by
  induction xs with
  | nil => rfl
  | cons x rest ih =>
    rw [split, List.splitOn_cons_eq_if_modifyHead, ← ih]
    cases hs : split sep rest with
    | nil => exact absurd hs (split_ne_nil sep rest)
    | cons piece pieces => simp

theorem Text.joinWith_eq_intercalate (sep : String) (parts : List String) :
    joinWith sep parts = sep.intercalate parts := by
  fun_induction joinWith sep parts with
  | case1 => rw [String.intercalate_nil]
  | case2 s => rw [String.intercalate_singleton]
  | case3 s rest more ih => rw [ih, String.intercalate_cons_of_ne_nil more]

namespace BaseDn

/-- The labels of a domain: what stands between its dots, where anything does. -/
def labels (domain : String) : List (List Char) :=
  (domain.toList.splitOn '.').filter fun label => !label.isEmpty

/-- What each part of a base begins with. -/
def mark : List Char := "dc=".toList

/-- The labels that a base says: what follows the mark in each part between its commas. -/
def named (base : String) : List (List Char) :=
  (base.toList.splitOn ',').filterMap fun part => part.dropPrefix? mark

theorem baseDnOfDomain_eq (domain : String) : baseDnOfDomain domain =
    ",".intercalate ((labels domain).map fun label => "dc=" ++ String.ofList label) := by
  rw [baseDnOfDomain, Pieces.split_eq_splitOn, Text.joinWith_eq_intercalate, labels]

theorem toList_baseDnOfDomain (domain : String) :
    (baseDnOfDomain domain).toList = [','].intercalate ((labels domain).map (mark ++ ·)) := by
  rw [baseDnOfDomain_eq, String.toList_intercalate, List.map_map]
  congr 2
  funext label
  simp [mark]

/-- A base is empty exactly if there is no label for it to say. -/
theorem baseDnOfDomain_eq_empty_iff (domain : String) :
    baseDnOfDomain domain = "" ↔ labels domain = [] := by
  rw [← String.toList_eq_nil_iff, toList_baseDnOfDomain]
  constructor
  · intro h
    cases hl : labels domain with
    | nil => rfl
    | cons first rest =>
      rw [hl] at h
      cases rest with
      | nil => simp [mark] at h
      | cons second more => simp [mark] at h
  · intro h
    rw [h, List.map_nil, List.intercalate_nil]

theorem comma_not_mem_label {domain : String} (plain : ',' ∉ domain.toList) {label : List Char}
    (h : label ∈ labels domain) : ',' ∉ label := by
  have piece : label ∈ Pieces.split '.' domain.toList := by
    rw [Pieces.split_eq_splitOn]
    exact (List.mem_filter.mp h).1
  exact fun comma => plain ((Pieces.sublist_of_mem_split piece).subset comma)

/-- The parts of a base are its labels, each after the mark, unless there are none. -/
theorem splitOn_baseDnOfDomain {domain : String} (plain : ',' ∉ domain.toList)
    (labelled : labels domain ≠ []) :
    (baseDnOfDomain domain).toList.splitOn ',' = (labels domain).map (mark ++ ·) := by
  rw [toList_baseDnOfDomain]
  refine List.splitOn_intercalate ',' ?_ (by simpa using labelled)
  intro part h
  obtain ⟨label, hl, rfl⟩ := List.mem_map.mp h
  exact fun comma => (List.mem_append.mp comma).elim (by decide) (comma_not_mem_label plain hl)

theorem dropPrefix?_mark (label : List Char) : (mark ++ label).dropPrefix? mark = some label :=
  List.dropPrefix?_eq_some_iff.mpr ⟨mark, rfl, by simp⟩

/-- The labels of a domain without commas are read back from its base. -/
theorem named_baseDnOfDomain {domain : String} (plain : ',' ∉ domain.toList) :
    named (baseDnOfDomain domain) = labels domain := by
  by_cases unlabelled : labels domain = []
  · rw [(baseDnOfDomain_eq_empty_iff domain).mpr unlabelled, unlabelled]
    rfl
  · rw [named, splitOn_baseDnOfDomain plain unlabelled, List.filterMap_map]
    simp only [Function.comp_def, dropPrefix?_mark, List.filterMap_some]

/-- A dot between two domains parts their labels. -/
theorem labels_append (a b : String) : labels (a ++ "." ++ b) = labels a ++ labels b := by
  have dot : (a ++ "." ++ b).toList = a.toList ++ '.' :: b.toList := by simp
  rw [labels, dot, List.splitOn_append_cons_self, List.filter_append, labels, labels]

/-- Domains put together by a dot have their bases put together by a comma, where both have one. -/
theorem baseDnOfDomain_append (a b : String) : baseDnOfDomain (a ++ "." ++ b) =
    if baseDnOfDomain a = "" then baseDnOfDomain b
    else if baseDnOfDomain b = "" then baseDnOfDomain a
    else baseDnOfDomain a ++ "," ++ baseDnOfDomain b := by
  simp only [baseDnOfDomain_eq_empty_iff]
  rw [baseDnOfDomain_eq, labels_append, List.map_append, baseDnOfDomain_eq a, baseDnOfDomain_eq b]
  split
  · rename_i first
    rw [first, List.map_nil, List.nil_append]
  · rename_i first
    split
    · rename_i second
      rw [second, List.map_nil, List.append_nil]
    · rename_i second
      exact String.intercalate_append_of_ne_nil (by simpa using first) (by simpa using second)

/-- **A base says the labels of its domain and nothing else.** From the base of a domain without commas
its labels are read back, in their order: each part between commas is the mark and a label, unless there
is no label and the base is empty. So domains like that have one base exactly if they have the same
labels. Whatever two domains hold, a dot between them makes a comma between their bases, if neither is
empty. -/
theorem base_says_labels :
    (∀ domain : String, ',' ∉ domain.toList →
      named (baseDnOfDomain domain) = labels domain ∧
      (labels domain ≠ [] →
        (baseDnOfDomain domain).toList.splitOn ',' = (labels domain).map (mark ++ ·))) ∧
    (∀ domain, baseDnOfDomain domain = "" ↔ labels domain = []) ∧
    (∀ a b : String, ',' ∉ a.toList → ',' ∉ b.toList →
      (baseDnOfDomain a = baseDnOfDomain b ↔ labels a = labels b)) ∧
    ∀ a b, baseDnOfDomain (a ++ "." ++ b) =
      if baseDnOfDomain a = "" then baseDnOfDomain b
      else if baseDnOfDomain b = "" then baseDnOfDomain a
      else baseDnOfDomain a ++ "," ++ baseDnOfDomain b := by
  refine ⟨fun domain plain => ⟨named_baseDnOfDomain plain, splitOn_baseDnOfDomain plain⟩,
    baseDnOfDomain_eq_empty_iff, fun a b ha hb => ⟨fun same => ?_, fun same => ?_⟩,
    baseDnOfDomain_append⟩
  · rw [← named_baseDnOfDomain ha, same, named_baseDnOfDomain hb]
  · rw [baseDnOfDomain_eq, same, ← baseDnOfDomain_eq]

/-- Dots that part nothing leave no trace. -/
theorem base_says_labels_dotted :
    ',' ∉ ".ipa..test.".toList ∧ ',' ∉ "ipa.test".toList ∧
      named (baseDnOfDomain ".ipa..test.") = ["ipa".toList, "test".toList] ∧
      (baseDnOfDomain ".ipa..test.").toList.splitOn ',' = ["dc=ipa".toList, "dc=test".toList] ∧
      baseDnOfDomain ".ipa..test." = baseDnOfDomain "ipa.test" := by
  have plain : ',' ∉ ".ipa..test.".toList := by decide
  have tidy : ',' ∉ "ipa.test".toList := by decide
  have dotted : labels ".ipa..test." = ["ipa".toList, "test".toList] := by decide
  obtain ⟨each, -, both, -⟩ := base_says_labels
  obtain ⟨read, parts⟩ := each ".ipa..test." plain
  rw [dotted] at read parts
  refine ⟨plain, tidy, read, parts (by decide), (both _ _ plain tidy).mpr ?_⟩
  rw [dotted]
  decide

/-- A comma in a label passes for one between two. -/
example : baseDnOfDomain "ipa,dc=test" = baseDnOfDomain "ipa.test" := by decide

end BaseDn

end HostAccess
