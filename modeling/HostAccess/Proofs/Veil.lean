import HostAccess.Proofs.Contents

/-!
# Trees that differ in one file

A veil over a location hides what is in the file there, and nothing else: neither whether there is a
file, nor its mode. Two trees that are the same under a veil behave the same. Where a path leads, why
something cannot be written or removed, and what is left after it, do not depend on what the veil
hides; and once the file is gone, the trees are the same without it. What is written to that file alone
need not even be the same.
-/
namespace HostAccess

/-! ## Computations that may fail -/

/-- Two computations that come to the same under a map both fail, in the same way, or both do not. -/
theorem except_cases {ε α β : Type} {f : α → β} {x y : Except ε α} (h : y.map f = x.map f) :
    (∃ e, x = .error e ∧ y = .error e) ∨ ∃ a b, x = .ok a ∧ y = .ok b ∧ f b = f a := by
  cases x with
  | error e =>
    cases y with
    | error e' =>
      obtain rfl : e' = e := by simpa [Except.map] using h
      exact .inl ⟨e', rfl, rfl⟩
    | ok b => simp [Except.map] at h
  | ok a =>
    cases y with
    | error e => simp [Except.map] at h
    | ok b => exact .inr ⟨a, b, rfl, rfl, by simpa [Except.map] using h⟩

/-! ## The veil -/

/-- An entry without what is in it. -/
def Entry.blank : Entry → Entry
  | .folder => .folder
  | .file _ mode => .file [] mode
  | .link target => .link target

namespace FileTree

/-- The entries with that at a location blanked. The first one at a location counts. -/
def veilEntries (l : Location) : List (Location × Entry) → List (Location × Entry)
  | [] => []
  | (m, e) :: rest => if m = l then (m, e.blank) :: rest else (m, e) :: veilEntries l rest

def veil (t : FileTree) (l : Location) : FileTree := { t with entries := veilEntries l t.entries }

/-! ## Entries under a veil -/

theorem lookup_veilEntries (l m : Location) (entries : List (Location × Entry)) :
    (veilEntries l entries).lookup m =
      if m = l then (entries.lookup m).map Entry.blank else entries.lookup m := by
  induction entries with
  | nil => simp [veilEntries]
  | cons entry rest ih =>
    obtain ⟨k, e⟩ := entry
    by_cases hk : k = l
    · rw [veilEntries, if_pos hk, List.lookup_cons, List.lookup_cons]
      by_cases hm : m = l
      · simp [hm, hk]
      · have hmk : (m == k) = false := by simpa [hk] using hm
        simp [hm, hmk]
    · rw [veilEntries, if_neg hk, List.lookup_cons, List.lookup_cons, ih]
      cases hmk : m == k with
      | false => simp
      | true =>
        have hm : m ≠ l := by
          rw [eq_of_beq hmk]
          exact hk
        simp [hm]

theorem entryAt?_veil (t : FileTree) (l m : Location) :
    (t.veil l).entryAt? m = if m = l then (t.entryAt? m).map Entry.blank else t.entryAt? m := by
  by_cases hm : m = []
  · subst hm
    simp [entryAt?, Entry.blank]
  · rw [entryAt?_of_ne hm, entryAt?_of_ne hm]
    exact lookup_veilEntries l m t.entries

theorem entryAt?_veil_of_ne (t : FileTree) {l m : Location} (hm : m ≠ l) :
    (t.veil l).entryAt? m = t.entryAt? m := by
  rw [entryAt?_veil, if_neg hm]

theorem sameShape_veil (t : FileTree) (l : Location) : SameShape t (t.veil l) := by
  refine ⟨⟨rfl, rfl, fun m => ?_, fun m target => ?_⟩, fun m => ?_⟩
  · rw [entryAt?_veil]
    split
    · cases h : t.entryAt? m with
      | none => simp
      | some e => cases e <;> simp [Entry.blank]
    · rfl
  · rw [entryAt?_veil]
    split
    · cases h : t.entryAt? m with
      | none => simp
      | some e => cases e <;> simp [Entry.blank]
    · rfl
  · rw [entryAt?_veil]
    split
    · cases t.entryAt? m <;> rfl
    · rfl

/-- Where no file is, a veil hides nothing. -/
theorem veil_of_nothing {t : FileTree} {l : Location} (hl : l ≠ []) (h : t.contentsAt? l = none) :
    t.veil l = t := by
  have keep : ∀ entries : List (Location × Entry),
      (∀ e, entries.lookup l = some e → e.blank = e) → veilEntries l entries = entries := by
    intro entries he
    induction entries with
    | nil => rfl
    | cons entry rest ih =>
      obtain ⟨k, e⟩ := entry
      by_cases hk : k = l
      · rw [veilEntries, if_pos hk, he e (by simp [hk])]
      · have hlk : (l == k) = false := by simpa using Ne.symm hk
        rw [veilEntries, if_neg hk, ih fun e' he' => he e' (by simpa [List.lookup_cons, hlk] using he')]
  unfold veil
  rw [keep t.entries fun e he => ?_]
  rw [← entryAt?_of_ne hl] at he
  cases e with
  | folder | link _ => rfl
  | file contents mode => simp [contentsAt?, he] at h

/-- Taking entries away by their locations takes away what a veil hides, or leaves it to the veil. -/
theorem filter_veilEntries (l : Location) (keeps : Location → Bool)
    (entries : List (Location × Entry)) :
    (veilEntries l entries).filter (fun e => keeps e.1) =
      if keeps l then veilEntries l (entries.filter fun e => keeps e.1)
      else entries.filter fun e => keeps e.1 := by
  induction entries with
  | nil => simp [veilEntries]
  | cons entry rest ih =>
    obtain ⟨k, e⟩ := entry
    by_cases hk : k = l
    · subst hk
      cases hkeep : keeps k <;> simp [veilEntries, hkeep]
    · rw [veilEntries, if_neg hk]
      cases hkeep : keeps k with
      | false => simp [hkeep, ih]
      | true =>
        simp only [List.filter_cons, hkeep, if_true, ih]
        split
        · rw [veilEntries, if_neg hk]
        · rfl

theorem erase_veil_self (t : FileTree) (l : Location) : (t.veil l).erase l = t.erase l := by
  unfold erase veil
  rw [filter_veilEntries l (· != l)]
  simp

theorem erase_veil_of_ne (t : FileTree) {l m : Location} (hm : m ≠ l) :
    (t.veil l).erase m = (t.erase m).veil l := by
  unfold erase veil
  rw [filter_veilEntries l (· != m)]
  simp [Ne.symm hm]

/-- A file that is written under a veil is hidden by it. -/
theorem veil_put_self (t : FileTree) (l : Location) (e : Entry) :
    (t.put l e).veil l = (t.veil l).put l e.blank := by
  have herase := congrArg FileTree.entries (t.erase_veil_self l)
  simp only [erase] at herase
  simp [put, veil, veilEntries, ← herase]

theorem veil_put_of_ne (t : FileTree) {l m : Location} (hm : m ≠ l) (e : Entry) :
    (t.put m e).veil l = (t.veil l).put m e := by
  have herase := congrArg FileTree.entries (t.erase_veil_of_ne hm)
  simp only [erase, veil] at herase
  simp [put, veil, veilEntries, hm, herase]

theorem prune_veil (t : FileTree) (l m : Location) :
    (t.veil l).prune m = if m.isPrefixOf l then t.prune m else (t.prune m).veil l := by
  unfold prune veil
  rw [filter_veilEntries l fun k => !m.isPrefixOf k]
  cases m.isPrefixOf l <;> simp

/-! ## Trees that are the same under a veil -/

section

variable {t u : FileTree} {l : Location}

theorem sameShape_of_veil (h : u.veil l = t.veil l) : SameShape t u := by
  have ht := t.sameShape_veil l
  have hu := u.sameShape_veil l
  rw [h] at hu
  refine ⟨ht.toSameGround.trans hu.toSameGround.symm, fun m => ?_⟩
  rw [← hu.present, ← ht.present]

theorem entryAt?_of_veil (h : u.veil l = t.veil l) {m : Location} (hm : m ≠ l) :
    u.entryAt? m = t.entryAt? m := by
  rw [← u.entryAt?_veil_of_ne hm, h, t.entryAt?_veil_of_ne hm]

theorem blank_of_veil (h : u.veil l = t.veil l) (m : Location) :
    (u.entryAt? m).map Entry.blank = (t.entryAt? m).map Entry.blank := by
  by_cases hm : m = l
  · have hu := u.entryAt?_veil l m
    rw [h, t.entryAt?_veil, if_pos hm, if_pos hm] at hu
    exact hu.symm
  · rw [entryAt?_of_veil h hm]

theorem contentsAt?_isSome_of_veil (h : u.veil l = t.veil l) (m : Location) :
    (u.contentsAt? m).isSome = (t.contentsAt? m).isSome := by
  have hb := blank_of_veil h m
  unfold contentsAt?
  cases hu : u.entryAt? m with
  | none =>
    cases ht : t.entryAt? m with
    | none => rfl
    | some e => simp [hu, ht] at hb
  | some d =>
    cases ht : t.entryAt? m with
    | none => simp [hu, ht] at hb
    | some e =>
      rw [hu, ht] at hb
      cases d <;> cases e <;> first | rfl | simp [Entry.blank] at hb

theorem modeAt_of_veil (h : u.veil l = t.veil l) (m : Location) : u.modeAt m = t.modeAt m := by
  have hb := blank_of_veil h m
  unfold modeAt
  cases hu : u.entryAt? m with
  | none =>
    cases ht : t.entryAt? m with
    | none => rfl
    | some e => simp [hu, ht] at hb
  | some d =>
    cases ht : t.entryAt? m with
    | none => simp [hu, ht] at hb
    | some e =>
      rw [hu, ht] at hb
      cases d <;> cases e <;> simp_all [Entry.blank]

theorem locations_veilEntries (l : Location) (entries : List (Location × Entry)) :
    (veilEntries l entries).map Prod.fst = entries.map Prod.fst := by
  induction entries with
  | nil => rfl
  | cons entry rest ih =>
    rw [veilEntries]
    split
    · rfl
    · rw [List.map_cons, List.map_cons, ih]

/-- A file has the same names in both trees. -/
theorem namesOf_of_veil (h : u.veil l = t.veil l) (m : Location) : u.namesOf m = t.namesOf m := by
  have serials : u.serialAt? = t.serialAt? :=
    funext fun k => congrArg Mode.serial (modeAt_of_veil h k)
  have locations : u.entries.map Prod.fst = t.entries.map Prod.fst := by
    rw [← locations_veilEntries l u.entries, ← locations_veilEntries l t.entries]
    exact congrArg (·.entries.map Prod.fst) h
  unfold namesOf
  rw [serials, locations]

/-- A file that is put into both trees leaves them the same under the veil, and what is put where the
veil is need not even be the same. -/
theorem put_of_veil (h : u.veil l = t.veil l) {m : Location} {contents other : Bytes} {mode : Mode}
    (hc : other = contents ∨ m = l) :
    (u.put m (.file other mode)).veil l = (t.put m (.file contents mode)).veil l := by
  by_cases hm : m = l
  · subst hm
    rw [veil_put_self, veil_put_self, h]
    rfl
  · obtain rfl := hc.resolve_right hm
    rw [veil_put_of_ne _ hm, veil_put_of_ne _ hm, h]

theorem putAll_of_veil (h : u.veil l = t.veil l) {names : List Location} {contents other : Bytes}
    {mode : Mode} (hc : other = contents ∨ ∀ m ∈ names, m = l) :
    (u.putAll other mode names).veil l = (t.putAll contents mode names).veil l := by
  induction names generalizing t u with
  | nil => exact h
  | cons m rest ih =>
    refine ih (put_of_veil h (hc.imp id fun all => all m List.mem_cons_self)) ?_
    exact hc.imp id fun all k hk => all k (List.mem_cons_of_mem _ hk)

theorem store_of_veil (h : u.veil l = t.veil l) {m : Location} {contents other : Bytes}
    (hc : other = contents ∨ ∀ k, t.SameFile m k → k = l) :
    (u.store m other).veil l = (t.store m contents).veil l := by
  unfold store
  rw [modeAt_of_veil h, namesOf_of_veil h]
  exact putAll_of_veil h (hc.imp id fun all k hk => all k (mem_namesOf_iff.mp hk))

/-- The location that something would be removed from. -/
def removeSlot (t : FileTree) (p : Path) : Except SystemError Location := do
  match ← t.place p with
  | none => .error (.errno Errno.isFolder)
  | some at_ =>
    if longestName < at_.name.length then .error (.errno Errno.nameTooLong)
    else match t.entryAt? at_.location with
      | none => .error (.errno Errno.noEntry)
      | some e =>
        if at_.slashed then .error (.errno (if e = .folder then Errno.isFolder else Errno.notFolder))
        else match (t.barsAt at_.location).removal with
          | some n => .error (.errno n)
          | none => if e = .folder then .error (.errno Errno.isFolder) else .ok at_.location

theorem remove_eq_removeSlot (t : FileTree) (p : Path) :
    t.remove p = (t.removeSlot p).map t.erase := by
  unfold remove removeSlot
  simp only [bind, Except.bind]
  cases t.place p with
  | error e => rfl
  | ok found =>
    cases found with
    | none => rfl
    | some at_ =>
      simp only
      split
      · rfl
      · cases t.entryAt? at_.location with
        | none => rfl
        | some e =>
          simp only
          split
          · rfl
          · cases (t.barsAt at_.location).removal with
            | some n => rfl
            | none =>
              simp only
              split <;> rfl

theorem SameShape.removeSlot {t u : FileTree} (s : SameShape t u) (p : Path) :
    u.removeSlot p = t.removeSlot p := by
  unfold FileTree.removeSlot
  rw [s.place]
  cases t.place p with
  | error e => rfl
  | ok found =>
    cases found with
    | none => rfl
    | some at_ =>
      simp only [bind, Except.bind, s.barsAt]
      cases ht : t.entryAt? at_.location with
      | none => rw [s.nothing ht]
      | some e =>
        cases e with
        | folder => rw [(s.folders _).mpr ht]
        | link target => rw [(s.links _ target).mpr ht]
        | file contents mode =>
          obtain ⟨_, _, hu⟩ := s.file ht
          simp [hu]

theorem remove_of_veil (h : u.veil l = t.veil l) (p : Path) :
    (u.remove p).map (·.veil l) = (t.remove p).map (·.veil l) := by
  rw [remove_eq_removeSlot, remove_eq_removeSlot, (sameShape_of_veil h).removeSlot]
  cases t.removeSlot p with
  | error e => rfl
  | ok m =>
    refine congrArg Except.ok ?_
    by_cases hm : m = l
    · subst hm
      simp only
      rw [← u.erase_veil_self, h, t.erase_veil_self]
    · simp only
      rw [← erase_veil_of_ne _ hm, h, erase_veil_of_ne _ hm]

theorem discard_of_veil (h : u.veil l = t.veil l) (p : Path) :
    (u.discard p).veil l = (t.discard p).veil l := by
  unfold discard
  obtain ⟨e, ht, hu⟩ | ⟨t', u', ht, hu, same⟩ := except_cases (remove_of_veil h p)
  · rw [ht, hu]
    exact h
  · rw [ht, hu]
    exact same

/-- If there is nothing to hide, then trees that are the same under a veil are the same. -/
theorem eq_of_veil_of_nothing (hl : l ≠ []) (h : u.veil l = t.veil l)
    (hc : t.contentsAt? l = none) : u = t := by
  have hu : u.contentsAt? l = none := by
    have hsome := contentsAt?_isSome_of_veil h l
    rw [hc] at hsome
    exact Option.not_isSome_iff_eq_none.mp (by simp [hsome])
  rwa [veil_of_nothing hl hc, veil_of_nothing hl hu] at h

/-- Removing what a veil hides leaves two trees the same. -/
theorem discard_eq_of_veil (hl : l ≠ []) (h : u.veil l = t.veil l) {p : Path}
    (reach : (t.contentsAt? l).isSome = true → t.target? p = some l ∧ ¬ t.Refuses p) :
    u.discard p = t.discard p := by
  cases hc : t.contentsAt? l with
  | none => rw [eq_of_veil_of_nothing hl h hc]
  | some contents =>
    obtain ⟨ht, removable⟩ := reach (by simp [hc])
    have s := sameShape_of_veil h
    have hu : u.target? p = some l := (s.target? p).trans ht
    obtain ⟨other, hother⟩ : ∃ other, u.contentsAt? l = some other := by
      refine Option.isSome_iff_exists.mp ?_
      rw [contentsAt?_isSome_of_veil h, hc]
      rfl
    rw [discard_of_remove (remove_of_contentsAt? ht hc removable),
      discard_of_remove (remove_of_contentsAt? hu hother fun refused => removable (s.refuses.mp refused)),
      ← u.erase_veil_self, h, t.erase_veil_self]

end

/-! ## With or without a veil -/

/-- A tree under a veil, if there is a location to hide. -/
def under (t : FileTree) : Option Location → FileTree
  | some l => t.veil l
  | none => t

/-- Two attempts to write that come to the same, and leave trees that are the same under a veil. -/
inductive WrittenAlike {ε : Type} (hidden : Option Location) :
    Except (ε × FileTree) FileTree → Except (ε × FileTree) FileTree → Prop
  | ok {t u : FileTree} (alike : u.under hidden = t.under hidden) :
    WrittenAlike hidden (.ok t) (.ok u)
  | error {e : ε} {t u : FileTree} (alike : u.under hidden = t.under hidden) :
    WrittenAlike hidden (.error (e, t)) (.error (e, u))

theorem WrittenAlike.refl {ε : Type} (hidden : Option Location)
    (written : Except (ε × FileTree) FileTree) : WrittenAlike hidden written written := by
  cases written with
  | ok t => exact .ok rfl
  | error failure => exact .error rfl

theorem WrittenAlike.mapError {ε ε' : Type} {hidden : Option Location} (f : ε → ε')
    {written written' : Except (ε × FileTree) FileTree} (alike : WrittenAlike hidden written written') :
    WrittenAlike hidden (written.mapError fun (e, left) => (f e, left))
      (written'.mapError fun (e, left) => (f e, left)) := by
  cases alike with
  | ok alike => exact .ok alike
  | error alike => exact .error alike

section

variable {t u : FileTree} {hidden : Option Location} (h : u.under hidden = t.under hidden)

include h

/-- What is written to both trees leaves them the same under the veil. -/
theorem write_of_under (p : Path) (contents : Bytes) :
    WrittenAlike hidden (t.write p contents) (u.write p contents) := by
  cases hidden with
  | none =>
    rw [show u = t from h]
    exact .refl none _
  | some l =>
    have s := sameShape_of_veil h
    unfold write
    rw [s.aim]
    cases t.aim p with
    | error cause => exact .error h
    | ok m =>
      simp only [fill, s.barsAt]
      cases (t.barsAt m).opening with
      | some n => exact .error h
      | none =>
        simp only
        cases (t.barsAt m).cut? contents with
        | some limit => exact .error (store_of_veil h (.inl rfl))
        | none => exact .ok (store_of_veil h (.inl rfl))

theorem remove_of_under (p : Path) :
    (u.remove p).map (·.under hidden) = (t.remove p).map (·.under hidden) := by
  cases hidden with
  | none => rw [show u = t from h]
  | some l => exact remove_of_veil h p

theorem prune_of_under (m : Location) : (u.prune m).under hidden = (t.prune m).under hidden := by
  cases hidden with
  | none => rw [show u = t from h]
  | some l =>
    have hprune : (u.veil l).prune m = (t.veil l).prune m := congrArg (·.prune m) h
    rw [prune_veil, prune_veil] at hprune
    split at hprune
    · exact congrArg (·.veil l) hprune
    · exact hprune

theorem discard_of_under (p : Path) :
    (u.discard p).under hidden = (t.discard p).under hidden := by
  cases hidden with
  | none => rw [show u = t from h]
  | some l => exact discard_of_veil h p

end

/-- Whether a file at a path is at no other, and takes what is written to it, and gives it up. -/
structure Settled (t : FileTree) (p : Path) : Prop where
  free : t.IsFree p
  removable : ¬ t.Refuses p
  roomy : ∀ l, t.target? p = some l → (t.barsAt l).filling = none

namespace Settled

variable {t : FileTree} {p : Path}

theorem whole (settled : t.Settled p) (contents : Bytes) : t.Whole p contents := by
  intro l ha _
  rw [Bars.cut?, settled.roomy l (settled.free.aim?_iff.mp ha).1, Option.filter_none]

/-- A settled place takes anything if it takes something. -/
theorem writable (settled : t.Settled p) {contents : Bytes} (h : ∃ u, t.write p contents = .ok u)
    (other : Bytes) : ∃ u, t.write p other = .ok u := by
  obtain ⟨l, takes⟩ := writable_iff.mp h
  exact writable_iff.mpr ⟨l, takes.aim, takes.opens, settled.whole other l takes.aim takes.opens⟩

/-- A file that is written under a veil may be written with anything, if its place is settled. -/
theorem write_alike (settled : t.Settled p) (contents other : Bytes) :
    WrittenAlike (t.target? p) (t.write p contents) (t.write p other) := by
  unfold write
  cases ha : t.aim p with
  | error cause => exact .error rfl
  | ok m =>
    have aims : t.aim? p = some m := by simp [aim?, ha, Except.toOption]
    obtain ⟨hm, -⟩ := settled.free.aim?_iff.mp aims
    simp only [fill, hm]
    cases ho : (t.barsAt m).opening with
    | some n => exact .error rfl
    | none =>
      simp only [settled.whole contents m aims ho, settled.whole other m aims ho]
      exact .ok (store_of_veil rfl (.inr (settled.free m hm).single))

end Settled

/-- A place stays settled while something is written or removed there or elsewhere. -/
theorem lasts_settled (p : Path) : Lasts fun t => t.Settled p where
  write := fun t q contents settled =>
    have s := t.sameGround_left_write q contents
    { free := settled.free.left_write q contents
      removable := fun refused => settled.removable (s.refuses.mp refused)
      roomy := fun l hl => by
        rw [s.barsAt]
        exact settled.roomy l ((s.target? p).symm.trans hl) }
  discard := fun t q settled =>
    { free := settled.free.discard q
      removable := fun refused => settled.removable (refuses_of_discard refused)
      roomy := fun l hl => by
        have bars := (t.discard_ground q).2
        rw [barsAt, bars]
        exact settled.roomy l (target?_of_discard hl) }

end FileTree

end HostAccess
