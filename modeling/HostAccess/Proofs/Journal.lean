import HostAccess.Journal
import Mathlib.Data.List.Forall2
import Mathlib.Data.Set.Subsingleton

/-!
# What the journal shows

A record is shown once or not at all: no name of a component begins that of another, so no target is
that of two. The text of a journal is the lines of its records, one after another.
-/
namespace HostAccess

namespace Component

/-- Whether a target is that of a component: its name, or its name continued after `::`. -/
def Covers (c : Component) (target : String) : Prop :=
  target = c.target ∨ ∃ rest, target = c.target ++ "::" ++ rest

theorem owns_iff (c : Component) (target : String) : c.owns target = true ↔ c.Covers target := by
  rw [owns, Bool.or_eq_true, beq_iff_eq, List.isPrefixOf_iff_prefix, Covers]
  refine or_congr_right ⟨?_, ?_⟩
  · rintro ⟨rest, continued⟩
    exact ⟨String.ofList rest, by rw [← String.toList_inj, ← continued]; simp⟩
  · rintro ⟨rest, rfl⟩
    exact ⟨rest.toList, String.toList_append.symm⟩

theorem Covers.begins {c : Component} {target : String} (h : c.Covers target) :
    c.target.toList <+: target.toList := by
  obtain rfl | ⟨rest, rfl⟩ := h
  · exact List.prefix_refl _
  · rw [String.append_assoc, String.toList_append]
    exact List.prefix_append _ _

theorem eq_of_begins {c d : Component} (h : c.target.toList <+: d.target.toList) : c = d := by
  cases c <;> cases d <;> first | rfl | exact absurd h (by decide)

/-- No target is that of two components. -/
theorem Covers.unique {c d : Component} {target : String} (hc : c.Covers target)
    (hd : d.Covers target) : c = d := by
  obtain h | h := List.prefix_or_prefix_of_prefix hc.begins hd.begins
  · exact eq_of_begins h
  · exact (eq_of_begins h).symm

/-- Among all components, one that alone meets a condition is the only one that is left by it. -/
theorem filter_all {p : Component → Bool} {c : Component} (meets : p c = true)
    (alone : ∀ d, p d = true → d = c) : all.filter p = [c] := by
  have same : all.filter p = all.filter (· = c) := by
    refine List.filter_congr fun d _ => ?_
    rw [Bool.eq_iff_iff, decide_eq_true_iff]
    exact ⟨alone d, fun h => h ▸ meets⟩
  rw [same]
  cases c <;> rfl

end Component

/-- What stands before the message of a record of a level. -/
def Level.mark : Level → String
  | .error => "ERROR: "
  | .warn => "WARN: "
  | .info | .debug | .trace => ""

theorem Component.line_eq (c : Component) (r : Record) :
    c.line r = c.tag ++ r.level.mark ++ r.message ++ "\n" := by
  rw [line]
  cases r.level <;> rfl

/-- A loop that puts a line for each thing that meets a condition after what there is. -/
theorem foldl_lines {α : Type} (p : α → Bool) (line : α → String) (xs : List α) (text : String) :
    xs.foldl (fun text x => if p x then text ++ line x else text) text =
      text ++ String.join ((xs.filter p).map line) := by
  induction xs generalizing text with
  | nil => simp
  | cons x rest ih =>
    rw [List.foldl_cons, ih]
    split
    · rename_i meets
      rw [List.filter_cons_of_pos meets, List.map_cons, String.join_cons, String.append_assoc]
    · rename_i fails
      rw [List.filter_cons_of_neg fails]

namespace Record

/-- What a record is in the text of a journal: a line under the tag of the component that its target
is that of, if its level is shown, and nothing otherwise. -/
inductive Prints (threshold : Threshold) (r : Record) : String → Prop where
  | line (c : Component) (covered : c.Covers r.target) (shown : threshold.shows r.level = true) :
    Prints threshold r (c.tag ++ r.level.mark ++ r.message ++ "\n")
  | nothing (silent : (∀ c : Component, ¬ c.Covers r.target) ∨ threshold.shows r.level = false) :
    Prints threshold r ""

/-- The components that show a record. -/
def shownBy (threshold : Threshold) (r : Record) : List Component :=
  Component.all.filter fun c => c.owns r.target && threshold.shows r.level

theorem shown_eq (threshold : Threshold) (r : Record) :
    r.shown threshold = String.join ((r.shownBy threshold).map (·.line r)) := by
  have loop := foldl_lines (fun c => c.owns r.target && threshold.shows r.level) (·.line r)
    Component.all ""
  rwa [String.empty_append] at loop

theorem shownBy_of_covers {threshold : Threshold} {r : Record} {c : Component}
    (covered : c.Covers r.target) (shown : threshold.shows r.level = true) :
    r.shownBy threshold = [c] := by
  refine Component.filter_all ?_ fun d hd => ?_
  · rw [(c.owns_iff r.target).mpr covered, shown]
    rfl
  · rw [Bool.and_eq_true, d.owns_iff] at hd
    exact hd.1.unique covered

theorem shownBy_of_silent {threshold : Threshold} {r : Record}
    (silent : (∀ c : Component, ¬ c.Covers r.target) ∨ threshold.shows r.level = false) :
    r.shownBy threshold = [] := by
  rw [shownBy, List.filter_eq_nil_iff]
  intro c _ shows
  rw [Bool.and_eq_true, c.owns_iff] at shows
  obtain ⟨covered, shown⟩ := shows
  obtain uncovered | hidden := silent
  · exact uncovered c covered
  · exact absurd (hidden.symm.trans shown) (by decide)

theorem Prints.eq_shown {threshold : Threshold} {r : Record} {text : String}
    (h : r.Prints threshold text) : text = r.shown threshold := by
  rw [shown_eq]
  -- The loop asks every component, but whatever the case it is shown by one at most.
  cases h with
  | line c covered shown =>
    rw [shownBy_of_covers covered shown, List.map_singleton, c.line_eq, String.join_cons,
      String.join_nil, String.append_empty]
  | nothing silent => rw [shownBy_of_silent silent, List.map_nil, String.join_nil]

/-- What is shown for a record is what it is in the text, and nothing else is. -/
theorem prints_iff (threshold : Threshold) (r : Record) (text : String) :
    r.Prints threshold text ↔ text = r.shown threshold := by
  refine ⟨Prints.eq_shown, ?_⟩
  have printed : ∃ text, r.Prints threshold text := by
    by_cases covered : ∃ c : Component, c.Covers r.target
    · obtain ⟨c, hc⟩ := covered
      cases shown : threshold.shows r.level with
      | true => exact ⟨_, .line c hc shown⟩
      | false => exact ⟨_, .nothing (.inr shown)⟩
    · exact ⟨_, .nothing (.inl (not_exists.mp covered))⟩
  rintro rfl
  obtain ⟨text, h⟩ := printed
  exact h.eq_shown ▸ h

end Record

namespace Journal

theorem render_eq (threshold : Threshold) (journal : Journal) :
    journal.render threshold = String.join (journal.map (·.shown threshold)) := by
  rw [render, String.join, List.foldl_map]

/-- **A journal shows each record once or not at all, under the component that its target is that of.**
Its text is that of its records, one after another: for a record whose level is shown and whose target
is that of a component the tag, the name of the level if it is a warning or an error, and the message,
and nothing for any other record. What a record is in the text is determined, and no record belongs to
two components. -/
theorem shown_by_component (threshold : Threshold) (journal : Journal) :
    (∃ lines, List.Forall₂ (Record.Prints threshold) journal lines ∧
      journal.render threshold = String.join lines) ∧
    (∀ r : Record, ∃! text, r.Prints threshold text) ∧
    ∀ target, {c : Component | c.owns target = true}.Subsingleton := by
  refine ⟨⟨journal.map (·.shown threshold), ?_, render_eq threshold journal⟩, fun r => ?_, ?_⟩
  · rw [List.forall₂_map_right_iff, List.forall₂_same]
    exact fun r _ => (r.prints_iff threshold _).mpr rfl
  · exact ⟨r.shown threshold, (r.prints_iff threshold _).mpr rfl, fun text h => h.eq_shown⟩
  · intro target c hc d hd
    exact ((c.owns_iff target).mp hc).unique ((d.owns_iff target).mp hd)

example : render (some .warn)
    [⟨"hbac::rpc", .warn, "login refused"⟩, ⟨"hbac::rpcx", .error, "of no component"⟩,
      ⟨"hbac", .error, "of no component"⟩, ⟨"hbac::fixture", .info, "too fine"⟩,
      ⟨"hbac::pam::client", .error, "no program"⟩] =
    "[rpc] WARN: login refused\n[pam] ERROR: no program\n" := by decide

end Journal

end HostAccess
