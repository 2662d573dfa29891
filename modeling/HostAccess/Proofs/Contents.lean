import HostAccess.Proofs.FileTree

/-!
# Contents, and when two trees agree

What can be done at a path in one tree is compared with what can be done there in another. If a path
leads to a folder, the folders and links alone decide where, so trees on the same ground agree on it.
If it does not, then why it fails also depends on the files in its way, but never on what is in them:
trees of the same shape agree on every path. What is read at a path without a link is a matter of the
contents at one location.
-/
namespace HostAccess.FileTree

/-! ## The contents at a location -/

/-- What is in the file at a location, if there is one. -/
def contentsAt? (t : FileTree) (l : Location) : Option Bytes :=
  match t.entryAt? l with
  | some (.file contents _) => some contents
  | some .folder | some (.link _) | none => none

theorem contentsAt?_congr {t u : FileTree} {l : Location} (h : u.entryAt? l = t.entryAt? l) :
    u.contentsAt? l = t.contentsAt? l := by
  unfold contentsAt?
  rw [h]

theorem contentsAt?_eq_some_iff {t : FileTree} {l : Location} {contents : Bytes} :
    t.contentsAt? l = some contents ↔ ∃ mode, t.entryAt? l = some (.file contents mode) := by
  unfold contentsAt?
  cases h : t.entryAt? l with
  | none => simp
  | some e => cases e <;> simp

theorem sameGround_erase_of_contentsAt? {t : FileTree} {l : Location} {contents : Bytes}
    (hc : t.contentsAt? l = some contents) : SameGround t (t.erase l) := by
  obtain ⟨mode, he⟩ := contentsAt?_eq_some_iff.mp hc
  exact sameGround_erase (ne_nil_of_file he) (by simp [he])

theorem contentsAt?_store {t : FileTree} {l : Location} (hl : l ≠ []) (contents : Bytes)
    (m : Location) :
    (t.store l contents).contentsAt? m = if t.SameFile l m then some contents else t.contentsAt? m := by
  have he := t.entryAt?_store hl contents m
  split at he
  · rename_i same
    rw [if_pos same, contentsAt?_eq_some_iff]
    exact ⟨_, he⟩
  · rename_i other
    rw [if_neg other, contentsAt?_congr he]

/-- What is written to a free path is found at its location, and nowhere else. -/
theorem contentsAt?_write {t u : FileTree} {p : Path} {contents : Bytes} (free : t.IsFree p)
    (h : t.write p contents = .ok u) (l : Location) :
    u.contentsAt? l = if t.target? p = some l then some contents else t.contentsAt? l := by
  obtain ⟨m, takes, rfl⟩ := write_eq_ok_iff.mp h
  obtain ⟨hm, -⟩ := free.aim?_iff.mp takes.aim
  rw [contentsAt?_store (ne_nil_of_aim? takes.aim), hm]
  by_cases hl : m = l
  · rw [if_pos (.inl hl.symm), if_pos (congrArg some hl)]
  · rw [if_neg fun same => hl ((free m hm).single l same).symm, if_neg fun h => hl (Option.some.inj h)]

/-- A file that a path would be written at is found at the path. -/
theorem read_of_contentsAt? {t : FileTree} {p : Path} {l : Location} {contents : Bytes}
    (ha : t.aim? p = some l) (hc : t.contentsAt? l = some contents) : t.read p = .ok contents := by
  obtain ⟨mode, he⟩ := contentsAt?_eq_some_iff.mp hc
  exact read_of_aim? ha he

/-- What is written to a path is found there. -/
theorem read_of_write {t u : FileTree} {p : Path} {contents : Bytes} (h : t.write p contents = .ok u) :
    u.read p = .ok contents := by
  have s := sameGround_write h
  obtain ⟨l, takes, rfl⟩ := write_eq_ok_iff.mp h
  refine read_of_contentsAt? ((s.aim? p).trans takes.aim) ?_
  rw [contentsAt?_store (ne_nil_of_aim? takes.aim), if_pos (.inl rfl)]

/-- A file can be removed unless the system refuses. -/
theorem remove_of_contentsAt? {t : FileTree} {p : Path} {l : Location} {contents : Bytes}
    (hl : t.target? p = some l) (hc : t.contentsAt? l = some contents) (removable : ¬ t.Refuses p) :
    t.remove p = .ok (t.erase l) := by
  obtain ⟨mode, he⟩ := contentsAt?_eq_some_iff.mp hc
  exact remove_of_target? hl he nofun
    (Decidable.not_not.mp fun barred => removable ⟨l, hl, barred⟩)

/-- Nothing is at the location of a path from which what is there could be removed. -/
theorem entryAt?_discard_self {t : FileTree} {p : Path} {l : Location} (hl : t.target? p = some l)
    (notFolder : t.entryAt? l ≠ some .folder) (unbarred : ¬ t.Refuses p) :
    (t.discard p).entryAt? l = none := by
  have unbarred : (t.barsAt l).removal = none := by
    refine Decidable.not_not.mp fun barred => unbarred ⟨l, hl, barred⟩
  cases he : t.entryAt? l with
  | none =>
    have stays : t.discard p = t := by
      simp [discard, remove_of_nothing hl he]
    rw [stays, he]
  | some e =>
    have gone := discard_of_remove (remove_of_target? hl he (fun hf => notFolder (hf ▸ he)) unbarred)
    rw [gone, entryAt?_erase (ne_nil_of_target? hl), if_pos rfl]

/-- Where a path is about the location of no entry, it leads nowhere. -/
theorem has_of_nothing {t : FileTree} {p : Path} {l : Location} (hl : t.target? p = some l)
    (he : t.entryAt? l = none) : t.has p = false := by
  obtain ⟨before, name, hn⟩ := namesFile_of_target? hl
  cases h : t.locate p with
  | error cause => simp [has, h, Except.toOption]
  | ok m =>
    obtain ⟨k, e, hk, entry, -⟩ := standing_of_locate hn h
    rw [Option.some.inj (hl.symm.trans hk), entry] at he
    cases he

/-! ## Where paths lead in two trees -/

/-- Two trees on the same ground and with files at the same locations, whatever is in them. -/
structure SameShape (t u : FileTree) : Prop extends SameGround t u where
  present : ∀ l, (u.entryAt? l).isSome = (t.entryAt? l).isSome

namespace SameShape

theorem isFolderAt {t u : FileTree} (s : SameShape t u) (l : Location) :
    u.isFolderAt l = t.isFolderAt l := by
  rw [Bool.eq_iff_iff, isFolderAt_iff, isFolderAt_iff]
  exact s.folders l

theorem file {t u : FileTree} (s : SameShape t u) {l : Location} {contents : Bytes} {mode : Mode}
    (h : t.entryAt? l = some (.file contents mode)) :
    ∃ contents mode, u.entryAt? l = some (.file contents mode) := by
  have present := s.present l
  cases hu : u.entryAt? l with
  | none => simp [h, hu] at present
  | some e =>
    cases e with
    | folder => simp [(s.folders l).mp hu] at h
    | link target => simp [(s.links l target).mp hu] at h
    | file contents mode => exact ⟨contents, mode, rfl⟩

theorem nothing {t u : FileTree} (s : SameShape t u) {l : Location} (h : t.entryAt? l = none) :
    u.entryAt? l = none := by
  have present := s.present l
  rw [h] at present
  simpa using present

theorem child {t u : FileTree} (s : SameShape t u) (l : Location) (name : Bytes) :
    u.child l name = t.child l name := by
  unfold FileTree.child
  rw [s.isFolderAt]
  cases ht : t.entryAt? (l ++ [name]) with
  | none => rw [s.nothing ht]
  | some e =>
    cases e with
    | folder => rw [(s.folders _).mpr ht]
    | link target => rw [(s.links _ target).mpr ht]
    | file contents mode =>
      obtain ⟨_, _, hu⟩ := s.file ht
      rw [hu]

theorem walk {t u : FileTree} (s : SameShape t u) (links : Nat) (l : Location) (names : List Bytes) :
    u.walk links l names = t.walk links l names := by
  have along : ∀ {links : Nat} {follow : Location → List Bytes → Except Int (Location × Nat)}
      (l : Location) (names : List Bytes),
        u.along links follow l names = t.along links follow l names := by
    intro links follow l names
    induction names generalizing l with
    | nil => rfl
    | cons name rest ih =>
      simp only [FileTree.along, s.child, ih]
  induction links generalizing l names with
  | zero => exact along l names
  | succ links ih =>
    have follow : u.walk links = t.walk links := funext fun l => funext fun names => ih l names
    simp only [FileTree.walk, follow]
    exact along l names

theorem placeFrom {t u : FileTree} (s : SameShape t u) (links : Nat) (l : Location) (p : Path) :
    u.placeFrom links l p = t.placeFrom links l p := by
  unfold FileTree.placeFrom
  simp only [s.walk, s.isFolderAt]

theorem place {t u : FileTree} (s : SameShape t u) (p : Path) : u.place p = t.place p := by
  unfold FileTree.place
  simp only [s.start, s.placeFrom]

theorem settle {t u : FileTree} (s : SameShape t u) (turns : Nat) (at_ : Place) :
    u.settle turns at_ = t.settle turns at_ := by
  have settleBy : ∀ (follow : Place → Except Int Location) (at_ : Place),
      u.settleBy follow at_ = t.settleBy follow at_ := by
    intro follow at_
    unfold FileTree.settleBy
    simp only [s.placeFrom]
    cases ht : t.entryAt? at_.location with
    | none => rw [s.nothing ht]
    | some e =>
      cases e with
      | folder => rw [(s.folders _).mpr ht]
      | link target => rw [(s.links _ target).mpr ht]
      | file contents mode =>
        obtain ⟨_, _, hu⟩ := s.file ht
        rw [hu]
  induction turns generalizing at_ with
  | zero => exact settleBy _ at_
  | succ turns ih =>
    have follow : u.settle turns = t.settle turns := funext ih
    simp only [FileTree.settle, follow]
    exact settleBy _ at_

theorem aim {t u : FileTree} (s : SameShape t u) (p : Path) : u.aim p = t.aim p := by
  unfold FileTree.aim
  rw [s.place]
  simp only [s.settle]

end SameShape

theorem contentsAt?_erase {t : FileTree} {l : Location} (hl : l ≠ []) (m : Location) :
    (t.erase l).contentsAt? m = if m = l then none else t.contentsAt? m := by
  unfold contentsAt?
  rw [entryAt?_erase hl]
  by_cases hm : m = l
  · rw [if_pos hm, if_pos hm]
  · rw [if_neg hm, if_neg hm]

end HostAccess.FileTree
