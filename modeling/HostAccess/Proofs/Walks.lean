import HostAccess.FileTree
import HostAccess.Proofs.Lookup

/-!
# Where a path leads

To find what a path is about, its names are gone through one after the other, and those of each link
that is met. Whether that comes to a folder depends on the folders and the links alone, so it stays the
same while files come and go; and what can be reached without an entry can be reached with it.
-/
namespace HostAccess.FileTree

/-! ## Entries -/

theorem entryAt?_of_ne {t : FileTree} {l : Location} (h : l ≠ []) :
    t.entryAt? l = t.entries.lookup l := by
  simp [entryAt?, h]

theorem entryAt?_erase {t : FileTree} {l : Location} (hl : l ≠ []) (m : Location) :
    (t.erase l).entryAt? m = if m = l then none else t.entryAt? m := by
  by_cases hm : m = []
  · subst hm
    rw [if_neg (Ne.symm hl)]
    rfl
  · rw [entryAt?_of_ne hm, entryAt?_of_ne hm]
    exact lookup_filter_ne t.entries l m

theorem entryAt?_put {t : FileTree} {l : Location} (hl : l ≠ []) (e : Entry) (m : Location) :
    (t.put l e).entryAt? m = if m = l then some e else t.entryAt? m := by
  have he := entryAt?_erase (t := t) hl m
  by_cases hm : m = []
  · subst hm
    rw [if_neg (Ne.symm hl)]
    rfl
  · rw [entryAt?_of_ne hm] at he ⊢
    simp only [erase] at he
    simp only [put, List.lookup_cons, he]
    by_cases hml : m = l
    · simp [hml]
    · have hb : (m == l) = false := by simpa using hml
      simp [hml, hb]

theorem isFolderAt_iff {t : FileTree} {l : Location} :
    t.isFolderAt l = true ↔ t.entryAt? l = some .folder := by
  simp [isFolderAt]

/-- Two trees with the same folders and links, the same start of relative paths, and the same bars. -/
structure SameGround (t u : FileTree) : Prop where
  home : u.home = t.home
  bars : u.bars = t.bars
  folders : ∀ l, u.entryAt? l = some .folder ↔ t.entryAt? l = some .folder
  links : ∀ l target, u.entryAt? l = some (.link target) ↔ t.entryAt? l = some (.link target)

namespace SameGround

theorem refl (t : FileTree) : SameGround t t := ⟨rfl, rfl, fun _ => Iff.rfl, fun _ _ => Iff.rfl⟩

theorem symm {t u : FileTree} (h : SameGround t u) : SameGround u t :=
  ⟨h.home.symm, h.bars.symm, fun l => (h.folders l).symm, fun l target => (h.links l target).symm⟩

theorem trans {t u v : FileTree} (h : SameGround t u) (k : SameGround u v) : SameGround t v :=
  ⟨k.home.trans h.home, k.bars.trans h.bars, fun l => (k.folders l).trans (h.folders l),
    fun l target => (k.links l target).trans (h.links l target)⟩

theorem barsAt {t u : FileTree} (h : SameGround t u) (l : Location) : u.barsAt l = t.barsAt l := by
  unfold FileTree.barsAt
  rw [h.bars]

theorem start {t u : FileTree} (h : SameGround t u) (p : Path) : u.start p = t.start p := by
  unfold FileTree.start
  rw [h.home]

end SameGround

/-! ## One name -/

theorem folder_of_child {t : FileTree} {l : Location} {name : Bytes} {lead : Lead}
    (h : t.child l name = .ok lead) : t.entryAt? l = some .folder := by
  unfold child at h
  split at h
  · cases h
  · rename_i hf
    exact isFolderAt_iff.mp (by simpa using hf)

theorem child_nil {t : FileTree} {l : Location} {lead : Lead} :
    t.child l [] = .ok lead ↔ t.entryAt? l = some .folder ∧ .place l = lead := by
  rw [← isFolderAt_iff]
  unfold child
  cases t.isFolderAt l <;> simp

/-- What a name that is neither empty nor made of dots leads to, by the entry of that name. -/
def leadBy (l : Location) : Option Entry → Option Lead
  | some (.link target) => some (.link target)
  | some .folder | some (.file ..) => some (.place l)
  | none => none

/-- A name that is neither empty nor made of dots leads by the entry of that name. -/
theorem child_eq_ok_iff {t : FileTree} {l : Location} {name : Bytes} {lead : Lead} (hne : name ≠ [])
    (hdot : name ≠ Path.dot) (hup : name ≠ Path.dotDot) :
    t.child l name = .ok lead ↔
      t.entryAt? l = some .folder ∧ name.length ≤ longestName ∧
        leadBy (l ++ [name]) (t.entryAt? (l ++ [name])) = some lead := by
  have hempty : name.isEmpty = false := by simpa using hne
  have hfolder : t.isFolderAt l = true ↔ t.entryAt? l = some .folder := isFolderAt_iff
  unfold child
  rw [← hfolder]
  simp only [hempty, beq_eq_false_iff_ne.mpr hdot, beq_eq_false_iff_ne.mpr hup, Bool.or_self,
    Bool.false_eq_true, if_false]
  cases t.isFolderAt l with
  | false => simp
  | true =>
    by_cases hlong : longestName < name.length
    · simp [hlong, Nat.not_le.mpr hlong]
    · cases he : t.entryAt? (l ++ [name]) with
      | none => simp [leadBy, hlong]
      | some e => cases e <;> simp [leadBy, hlong, Nat.not_lt.mp hlong]

/-- A name is followed by the entries of its folder and of that name alone. -/
theorem child_congr {t u : FileTree} {l : Location} {name : Bytes} {lead : Lead}
    (h : t.child l name = .ok lead)
    (folder : t.entryAt? l = some .folder → u.entryAt? l = some .folder)
    (entry : leadBy (l ++ [name]) (t.entryAt? (l ++ [name])) = some lead →
      leadBy (l ++ [name]) (u.entryAt? (l ++ [name])) = some lead) : u.child l name = .ok lead := by
  have hl := folder_of_child h
  have hul : u.isFolderAt l = true := isFolderAt_iff.mpr (folder hl)
  by_cases hdots : (name.isEmpty || name == Path.dot) = true
  · unfold child at h ⊢
    rw [isFolderAt_iff.mpr hl] at h
    rw [hul]
    rwa [if_pos hdots] at h ⊢
  by_cases hup : name = Path.dotDot
  · subst hup
    unfold child at h ⊢
    rw [isFolderAt_iff.mpr hl] at h
    rw [hul]
    exact h
  · simp only [Bool.or_eq_true, List.isEmpty_iff, beq_iff_eq, not_or] at hdots
    obtain ⟨_, short, lead⟩ := (child_eq_ok_iff hdots.1 hdots.2 hup).mp h
    exact (child_eq_ok_iff hdots.1 hdots.2 hup).mpr ⟨folder hl, short, entry lead⟩

/-! ## Names in a row -/

/-- Names that lead from a location to another, with the number of links that may be followed before
and after. -/
inductive Walks (t : FileTree) : Nat → Location → List Bytes → Location → Nat → Prop
  | here {links : Nat} {l : Location} : Walks t links l [] l links
  | on {links left : Nat} {l m f : Location} {name : Bytes} {rest : List Bytes}
    (child : t.child l name = .ok (.place m)) (walks : Walks t links m rest f left) :
    Walks t links l (name :: rest) f left
  | follow {links left : Nat} {l f : Location} {name : Bytes} {rest : List Bytes} {target : Path}
    (child : t.child l name = .ok (.link target))
    (walks : Walks t links (startFrom l target) (Pieces.split Path.slash target ++ rest) f left) :
    Walks t (links + 1) l (name :: rest) f left

theorem walk_nil {t : FileTree} {links : Nat} {l : Location} : t.walk links l [] = .ok (l, links) := by
  cases links <;> rfl

theorem walk_of_place {t : FileTree} {links : Nat} {l m : Location} {name : Bytes} {rest : List Bytes}
    (h : t.child l name = .ok (.place m)) : t.walk links l (name :: rest) = t.walk links m rest := by
  cases links <;> simp only [walk, along, h]

theorem walk_of_link {t : FileTree} {links : Nat} {l : Location} {name : Bytes} {rest : List Bytes}
    {target : Path} (h : t.child l name = .ok (.link target)) :
    t.walk (links + 1) l (name :: rest) =
      t.walk links (startFrom l target) (Pieces.split Path.slash target ++ rest) := by
  simp only [walk, along, h]

theorem Walks.walk {t : FileTree} {links left : Nat} {l f : Location} {names : List Bytes}
    (h : Walks t links l names f left) : t.walk links l names = .ok (f, left) := by
  induction h with
  | here => exact walk_nil
  | on child _ ih => exact (walk_of_place child).trans ih
  | follow child _ ih => exact (walk_of_link child).trans ih

theorem walk_eq_ok_iff {t : FileTree} {links left : Nat} {l f : Location} {names : List Bytes} :
    t.walk links l names = .ok (f, left) ↔ Walks t links l names f left := by
  refine ⟨fun h => ?_, Walks.walk⟩
  -- A name makes the row shorter, and a link leaves fewer to follow.
  induction links generalizing l names with
  | zero =>
    induction names generalizing l with
    | nil =>
      obtain ⟨rfl, rfl⟩ := Prod.mk.inj (Except.ok.inj h)
      exact .here
    | cons name rest ih =>
      cases hc : t.child l name with
      | error n => simp [FileTree.walk, along, hc] at h
      | ok lead =>
        cases lead with
        | place m => exact .on hc (ih (walk_of_place hc ▸ h))
        | link target => simp [FileTree.walk, along, hc] at h
  | succ links outer =>
    induction names generalizing l with
    | nil =>
      obtain ⟨rfl, rfl⟩ := Prod.mk.inj (Except.ok.inj h)
      exact .here
    | cons name rest ih =>
      cases hc : t.child l name with
      | error n => simp [FileTree.walk, along, hc] at h
      | ok lead =>
        cases lead with
        | place m => exact .on hc (ih (walk_of_place hc ▸ h))
        | link target => exact .follow hc (outer (walk_of_link hc ▸ h))

namespace Walks

variable {t u : FileTree} {links left : Nat} {l f : Location} {names more : List Bytes}

theorem unique {g : Location} {left' : Nat} (h : Walks t links l names f left)
    (k : Walks t links l names g left') : f = g ∧ left = left' :=
  Prod.mk.inj (Except.ok.inj (h.walk.symm.trans k.walk))

/-- Where names lead does not depend on how many links may be followed. -/
theorem end_unique {links' left' : Nat} {g : Location} (h : Walks t links l names f left)
    (k : Walks t links' l names g left') : f = g := by
  induction h generalizing links' with
  | here =>
    cases k
    rfl
  | on child _ ih =>
    cases k with
    | on child' walks' =>
      obtain rfl := Lead.place.inj (Except.ok.inj (child.symm.trans child'))
      exact ih walks'
    | follow child' _ => cases child.symm.trans child'
  | follow child _ ih =>
    cases k with
    | on child' _ => cases child.symm.trans child'
    | follow child' walks' =>
      obtain rfl := Lead.link.inj (Except.ok.inj (child.symm.trans child'))
      exact ih walks'

theorem append {m : Location} {k : Nat} (h : Walks t links l names m k)
    (next : Walks t k m more f left) : Walks t links l (names ++ more) f left := by
  induction h with
  | here => exact next
  | on child _ ih => exact .on child (ih next)
  | follow child _ ih =>
    have joined := ih next
    rw [List.append_assoc] at joined
    exact .follow child joined

theorem of_append (h : Walks t links l (names ++ more) f left) :
    ∃ m k, Walks t links l names m k ∧ Walks t k m more f left := by
  generalize whole : names ++ more = row at h
  induction h generalizing names with
  | @here links l =>
    obtain ⟨rfl, rfl⟩ := List.append_eq_nil_iff.mp whole
    exact ⟨l, links, .here, .here⟩
  | @on links left l m f name rest child walks ih =>
    cases names with
    | nil =>
      obtain rfl := whole
      exact ⟨l, links, .here, .on child walks⟩
    | cons first others =>
      obtain ⟨rfl, rfl⟩ := List.cons.inj whole
      obtain ⟨m, k, before, after⟩ := ih rfl
      exact ⟨m, k, .on child before, after⟩
  | @follow links left l f name rest target child walks ih =>
    cases names with
    | nil =>
      obtain rfl := whole
      exact ⟨l, links + 1, .here, .follow child walks⟩
    | cons first others =>
      obtain ⟨rfl, rfl⟩ := List.cons.inj whole
      obtain ⟨m, k, before, after⟩ := ih (List.append_assoc ..)
      exact ⟨m, k, .follow child before, after⟩

theorem singleton {name : Bytes} {m : Location} (child : t.child l name = .ok (.place m)) :
    Walks t links l [name] m links := .on child .here

/-- Only a folder has anything below it, so what leads to a folder begins at one. -/
theorem folder (h : Walks t links l names f left) (hf : t.entryAt? f = some .folder) :
    t.entryAt? l = some .folder := by
  cases h with
  | here => exact hf
  | on child _ => exact folder_of_child child
  | follow child _ => exact folder_of_child child

/-- A name is looked up in a folder. -/
theorem folder_of_name {name : Bytes} (h : Walks t links l [name] f left) :
    t.entryAt? l = some .folder := by
  cases h with
  | on child _ => exact folder_of_child child
  | follow child _ => exact folder_of_child child

/-- What leads to a folder leads there on the same ground. -/
theorem sameGround (s : SameGround t u) (h : Walks t links l names f left)
    (hf : t.entryAt? f = some .folder) : Walks u links l names f left := by
  induction h with
  | here => exact .here
  | @on links left l m f name rest child walks ih =>
    refine .on (child_congr child (s.folders l).mpr fun lead => ?_) (ih hf)
    have hm := walks.folder hf
    cases he : t.entryAt? (l ++ [name]) with
    | none => simp [he, leadBy] at lead
    | some e =>
      cases e with
      | folder =>
        rw [(s.folders _).mpr he]
        rwa [he] at lead
      | link target => simp [he, leadBy] at lead
      | file contents mode =>
        obtain rfl : l ++ [name] = m := by simpa [he, leadBy] using lead
        rw [he] at hm
        cases hm
  | @follow links left l f name rest target child walks ih =>
    refine .follow (child_congr child (s.folders l).mpr fun lead => ?_) (ih hf)
    have he : t.entryAt? (l ++ [name]) = some (.link target) := by
      cases he : t.entryAt? (l ++ [name]) with
      | none => simp [he, leadBy] at lead
      | some e => cases e <;> simp_all [leadBy]
    rw [(s.links _ _).mpr he]
    rfl

/-- What can be reached when an entry is gone can be reached while it is there. -/
theorem of_erase {k : Location} (hk : k ≠ []) (h : Walks (t.erase k) links l names f left) :
    Walks t links l names f left := by
  have present : ∀ {m : Location} {e : Entry}, (t.erase k).entryAt? m = some e →
      t.entryAt? m = some e := by
    intro m e h
    rw [entryAt?_erase hk] at h
    split at h
    · cases h
    · exact h
  have step : ∀ {l : Location} {name : Bytes} {lead : Lead},
      (t.erase k).child l name = .ok lead → t.child l name = .ok lead := by
    intro l name lead h
    refine child_congr h present fun lead => ?_
    cases he : (t.erase k).entryAt? (l ++ [name]) with
    | none => simp [he, leadBy] at lead
    | some e =>
      rw [present he]
      rwa [he] at lead
  induction h with
  | here => exact .here
  | on child _ ih => exact .on (step child) ih
  | follow child _ ih => exact .follow (step child) ih

/-- What leads to a folder does not pass a name that leads to a file, so it leads there without it. -/
theorem erase {folder m : Location} {name : Bytes} {links' left' : Nat} {contents : Bytes} {mode : Mode}
    (h : Walks t links l names f left) (hf : t.entryAt? f = some .folder)
    (last : Walks t links' folder [name] m left') (file : t.entryAt? m = some (.file contents mode))
    (standing : t.entryAt? (folder ++ [name]) ≠ some .folder) :
    Walks (t.erase (folder ++ [name])) links l names f left := by
  have named : folder ++ [name] ≠ [] := by simp
  have elsewhere : ∀ {k}, k ≠ folder ++ [name] →
      (t.erase (folder ++ [name])).entryAt? k = t.entryAt? k := fun hk => by
    rw [entryAt?_erase named, if_neg hk]
  have folders : ∀ {k}, t.entryAt? k = some .folder →
      (t.erase (folder ++ [name])).entryAt? k = some .folder := fun {k} hk => by
    rw [elsewhere (fun same => standing (same ▸ hk)), hk]
  induction h with
  | here => exact .here
  | @on links left l n f first rest child walks ih =>
    refine .on (child_congr child folders fun lead => ?_) (ih hf)
    by_cases same : l ++ [first] = folder ++ [name]
    · -- The names go on from a folder, and here is none.
      cases he : t.entryAt? (l ++ [first]) with
      | none => simp [he, leadBy] at lead
      | some e =>
        cases e with
        | folder => exact absurd (same ▸ he) standing
        | link target => simp [he, leadBy] at lead
        | file contents mode =>
          obtain rfl : l ++ [first] = n := by simpa [he, leadBy] using lead
          rw [walks.folder hf] at he
          cases he
    · rwa [elsewhere same]
  | @follow links left l f first rest target child walks ih =>
    refine .follow (child_congr child folders fun lead => ?_) (ih hf)
    by_cases same : l ++ [first] = folder ++ [name]
    · obtain ⟨rfl, rfl⟩ := List.append_inj' same rfl |>.imp_right List.singleton_inj.mp
      -- The link leads to the file, and the names go on from where it leads to.
      obtain ⟨n, k, before, after⟩ := walks.of_append
      cases last with
      | on child' _ => cases child.symm.trans child'
      | follow child' walks' =>
        obtain rfl := Lead.link.inj (Except.ok.inj (child.symm.trans child'))
        rw [List.append_nil] at walks'
        obtain rfl := before.end_unique walks'
        rw [after.folder hf] at file
        cases file
    · rwa [elsewhere same]

end Walks

/-! ## The last name -/

/-- The pieces of a path that no slashes end: the last name is one of them. -/
theorem split_of_splitLast {p : Path} {before : List Bytes} {name : Bytes}
    (h : splitLast p = some (before, name, false)) :
    Pieces.split Path.slash p = before ++ [name] := by
  unfold splitLast at h
  cases hr : (Pieces.split Path.slash p).reverse with
  | nil => simp [hr] at h
  | cons last rest =>
    simp only [hr] at h
    cases hlast : last with
    | nil =>
      simp only [hlast, List.head?_cons] at h
      split at h
      · cases h
      · simp at h
    | cons b bs =>
      rw [hlast] at h hr
      simp only [List.dropWhile_cons, List.isEmpty_cons, Bool.false_eq_true, if_false,
        Option.some.injEq, Prod.mk.injEq] at h
      obtain ⟨rfl, rfl, _⟩ := h
      rw [← List.reverse_reverse (Pieces.split Path.slash p), hr, List.reverse_cons]

theorem ne_nil_of_splitLast {p : Path} {before : List Bytes} {name : Bytes} {slashed : Bool}
    (h : splitLast p = some (before, name, slashed)) : name ≠ [] := by
  unfold splitLast at h
  simp only at h
  split at h
  · cases h
  · rename_i first rest hd
    obtain ⟨-, rfl, -⟩ : _ ∧ first = name ∧ _ := by simpa using h
    rintro rfl
    have := List.head?_dropWhile_not (fun b : Bytes => b.isEmpty) (Pieces.split Path.slash p).reverse
    simp [hd] at this

theorem placeFrom_eq_some_iff {t : FileTree} {links : Nat} {l : Location} {p : Path} {at_ : Place} :
    t.placeFrom links l p = .ok (some at_) ↔
      ∃ before, splitLast p = some (before, at_.name, at_.slashed) ∧
        Walks t links l before at_.folder at_.links ∧ t.entryAt? at_.folder = some .folder ∧
        at_.name ≠ Path.dot ∧ at_.name ≠ Path.dotDot := by
  constructor
  · intro h
    unfold placeFrom at h
    split at h
    · cases h
    rename_i before name slashed hlast
    split at h
    · cases h
    rename_i folder left hw
    split at h
    · cases h
    rename_i hf
    split at h
    · cases h
    rename_i hdots
    cases h
    simp only [Bool.or_eq_true, beq_iff_eq, not_or] at hdots
    exact ⟨before, hlast, walk_eq_ok_iff.mp hw, isFolderAt_iff.mp (by simpa using hf), hdots⟩
  · rintro ⟨before, hlast, hw, hf, hdot, hup⟩
    simp [placeFrom, hlast, hw.walk, isFolderAt_iff.mpr hf, hdot, hup]

theorem place_eq_some_iff {t : FileTree} {p : Path} {at_ : Place} :
    t.place p = .ok (some at_) ↔
      screen p = .ok () ∧ t.placeFrom linkLimit (t.start p) p = .ok (some at_) := by
  unfold place
  cases screen p with
  | error e => simp [bind, Except.bind]
  | ok done =>
    cases t.placeFrom linkLimit (t.start p) p <;> simp [bind, Except.bind]

theorem SameGround.placeFrom {t u : FileTree} (s : SameGround t u) {links : Nat} {l : Location}
    {p : Path} {at_ : Place} (h : t.placeFrom links l p = .ok (some at_)) :
    u.placeFrom links l p = .ok (some at_) := by
  obtain ⟨before, hlast, hw, hf, hdots⟩ := placeFrom_eq_some_iff.mp h
  exact placeFrom_eq_some_iff.mpr ⟨before, hlast, hw.sameGround s hf, (s.folders _).mpr hf, hdots⟩

/-- The location that the last name of a path is for, whatever is there. -/
def target? (t : FileTree) (p : Path) : Option Location :=
  match t.place p with
  | .ok (some at_) =>
    if at_.slashed || longestName < at_.name.length then none else some at_.location
  | _ => none

/-- Whether a path can be about a file: it can be looked up at all, and its last name is neither `.`
nor `..`, and no slashes follow it. -/
structure NamesFile (p : Path) (before : List Bytes) (name : Bytes) : Prop where
  screened : screen p = .ok ()
  last : splitLast p = some (before, name, false)
  notDot : name ≠ Path.dot
  notUp : name ≠ Path.dotDot
  short : name.length ≤ longestName

theorem target?_eq_some_iff {t : FileTree} {p : Path} {l : Location} :
    t.target? p = some l ↔
      ∃ before name folder left, NamesFile p before name ∧
        Walks t linkLimit (t.start p) before folder left ∧ t.entryAt? folder = some .folder ∧
        l = folder ++ [name] := by
  unfold target?
  constructor
  · intro h
    split at h
    · rename_i at_ hp
      obtain ⟨hscreen, hp⟩ := place_eq_some_iff.mp hp
      obtain ⟨before, hlast, hw, hf, hdot, hup⟩ := placeFrom_eq_some_iff.mp hp
      split at h
      · cases h
      · rename_i hs
        simp only [Bool.or_eq_true, decide_eq_true_eq, not_or, Bool.not_eq_true] at hs
        rw [hs.1] at hlast
        exact ⟨before, at_.name, at_.folder, at_.links,
          ⟨hscreen, hlast, hdot, hup, Nat.not_lt.mp hs.2⟩, hw, hf, (Option.some.inj h).symm⟩
    · cases h
  · rintro ⟨before, name, folder, left, hn, hw, hf, rfl⟩
    have hp : t.place p = .ok (some ⟨folder, name, false, left⟩) :=
      place_eq_some_iff.mpr
        ⟨hn.screened, placeFrom_eq_some_iff.mpr ⟨before, hn.last, hw, hf, hn.notDot, hn.notUp⟩⟩
    simp [hp, Nat.not_lt.mpr hn.short, Place.location]

theorem ne_nil_of_target? {t : FileTree} {p : Path} {l : Location} (h : t.target? p = some l) :
    l ≠ [] := by
  obtain ⟨before, name, folder, left, _, _, _, rfl⟩ := target?_eq_some_iff.mp h
  simp

theorem namesFile_of_target? {t : FileTree} {p : Path} {l : Location} (h : t.target? p = some l) :
    ∃ before name, NamesFile p before name := by
  obtain ⟨before, name, _, _, hn, _⟩ := target?_eq_some_iff.mp h
  exact ⟨before, name, hn⟩

/-- Which location a path is about depends on the ground alone. -/
theorem SameGround.target? {t u : FileTree} (s : SameGround t u) (p : Path) :
    u.target? p = t.target? p := by
  have transfer : ∀ {t u : FileTree} (_ : SameGround t u) {l : Location},
      t.target? p = some l → u.target? p = some l := by
    intro t u s l h
    obtain ⟨before, name, folder, left, hn, hw, hf, hl⟩ := target?_eq_some_iff.mp h
    exact target?_eq_some_iff.mpr
      ⟨before, name, folder, left, hn, s.start p ▸ hw.sameGround s hf, (s.folders folder).mpr hf, hl⟩
  exact Option.ext fun l => ⟨transfer s.symm, transfer s⟩

/-- A path that is about a location when an entry is gone is about it while the entry is there. -/
theorem target?_of_erase {t : FileTree} {k l : Location} {p : Path} (hk : k ≠ [])
    (h : (t.erase k).target? p = some l) : t.target? p = some l := by
  obtain ⟨before, name, folder, left, hn, hw, hf, hl⟩ := target?_eq_some_iff.mp h
  refine target?_eq_some_iff.mpr ⟨before, name, folder, left, hn, hw.of_erase hk, ?_, hl⟩
  rw [entryAt?_erase hk] at hf
  split at hf
  · cases hf
  · exact hf

/-! ## What a link leads to -/

/-- The place that a link is followed from comes to the location of a file, or of one to be made. The
number bounds the turns. -/
inductive Settles (t : FileTree) : Nat → Place → Location → Prop
  | here {turns : Nat} {at_ : Place} (plain : at_.slashed = false)
    (short : at_.name.length ≤ longestName) (notFolder : t.entryAt? at_.location ≠ some .folder)
    (notLink : ∀ target, t.entryAt? at_.location ≠ some (.link target)) :
    Settles t turns at_ at_.location
  | follow {turns links : Nat} {at_ next : Place} {target : Path} {l : Location}
    (plain : at_.slashed = false) (short : at_.name.length ≤ longestName)
    (link : t.entryAt? at_.location = some (.link target)) (more : at_.links = links + 1)
    (leads : t.placeFrom links (startFrom at_.folder target) target = .ok (some next))
    (settles : Settles t turns next l) : Settles t (turns + 1) at_ l

theorem settleBy_eq_ok_iff {t : FileTree} {follow : Place → Except Int Location} {at_ : Place}
    {l : Location} :
    t.settleBy follow at_ = .ok l ↔ at_.slashed = false ∧ at_.name.length ≤ longestName ∧
      ((t.entryAt? at_.location ≠ some .folder ∧
          (∀ target, t.entryAt? at_.location ≠ some (.link target)) ∧ at_.location = l) ∨
        ∃ target links next, t.entryAt? at_.location = some (.link target) ∧
          at_.links = links + 1 ∧
          t.placeFrom links (startFrom at_.folder target) target = .ok (some next) ∧
          follow next = .ok l) := by
  unfold settleBy
  cases at_.slashed with
  | true => simp
  | false =>
    by_cases hlong : longestName < at_.name.length
    · simp [hlong, Nat.not_le.mpr hlong]
    · have short := Nat.not_lt.mp hlong
      cases t.entryAt? at_.location with
      | none => simp [short, hlong]
      | some e =>
        cases e with
        | folder => simp [hlong]
        | file contents mode => simp [short, hlong]
        | link target =>
          cases at_.links with
          | zero => simp [hlong]
          | succ links =>
            simp only [hlong, short]
            cases hp : t.placeFrom links (startFrom at_.folder target) target with
            | error n => simp [hp]
            | ok found => cases found <;> simp [hp]

theorem settle_eq_ok_iff {t : FileTree} {turns : Nat} {at_ : Place} {l : Location} :
    t.settle turns at_ = .ok l ↔ Settles t turns at_ l := by
  constructor
  · intro h
    induction turns generalizing at_ with
    | zero =>
      obtain ⟨plain, short, ⟨notFolder, notLink, rfl⟩ | ⟨_, _, _, _, _, _, never⟩⟩ :=
        settleBy_eq_ok_iff.mp h
      · exact .here plain short notFolder notLink
      · cases never
    | succ turns ih =>
      obtain ⟨plain, short, ⟨notFolder, notLink, rfl⟩ | ⟨target, links, next, link, more, leads, on⟩⟩ :=
        settleBy_eq_ok_iff.mp h
      · exact .here plain short notFolder notLink
      · exact .follow plain short link more leads (ih on)
  · intro h
    induction h with
    | @here turns at_ plain short notFolder notLink =>
      cases turns <;> exact settleBy_eq_ok_iff.mpr ⟨plain, short, .inl ⟨notFolder, notLink, rfl⟩⟩
    | follow plain short link more leads _ ih =>
      exact settleBy_eq_ok_iff.mpr ⟨plain, short, .inr ⟨_, _, _, link, more, leads, ih⟩⟩

namespace Settles

variable {t u : FileTree} {turns : Nat} {at_ : Place} {l : Location}

/-- Where something would be written there is neither a folder nor a link. -/
theorem free (h : Settles t turns at_ l) :
    t.entryAt? l ≠ some .folder ∧ ∀ target, t.entryAt? l ≠ some (.link target) := by
  induction h with
  | here _ _ notFolder notLink => exact ⟨notFolder, notLink⟩
  | follow _ _ _ _ _ _ ih => exact ih

theorem ne_nil (h : Settles t turns at_ l) : l ≠ [] := by
  induction h with
  | here => simp [Place.location]
  | follow _ _ _ _ _ _ ih => exact ih

theorem sameGround (s : SameGround t u) (h : Settles t turns at_ l) : Settles u turns at_ l := by
  induction h with
  | here plain short notFolder notLink =>
    exact .here plain short (fun hu => notFolder ((s.folders _).mp hu))
      fun target hu => notLink target ((s.links _ _).mp hu)
  | follow plain short link more leads _ ih =>
    exact .follow plain short ((s.links _ _).mpr link) more (s.placeFrom leads) ih

/-- A file that would be written at a place is the one that its name leads to. -/
theorem walks (h : Settles t turns at_ l) {contents : Bytes} {mode : Mode}
    (file : t.entryAt? l = some (.file contents mode)) (folder : t.entryAt? at_.folder = some .folder)
    (filled : at_.name ≠ []) (notDot : at_.name ≠ Path.dot) (notUp : at_.name ≠ Path.dotDot) :
    ∃ left, Walks t at_.links at_.folder [at_.name] l left := by
  induction h with
  | @here turns at_ plain short =>
    refine ⟨_, .singleton ((child_eq_ok_iff filled notDot notUp).mpr ⟨folder, short, ?_⟩)⟩
    rw [show at_.folder ++ [at_.name] = at_.location from rfl, file]
    rfl
  | @follow turns links at_ next target l plain short link more leads settles ih =>
    obtain ⟨before, hlast, hw, hf, hdot, hup⟩ := placeFrom_eq_some_iff.mp leads
    obtain ⟨left, last⟩ := ih file hf (ne_nil_of_splitLast hlast) hdot hup
    have unslashed : next.slashed = false := by
      cases settles <;> assumption
    rw [unslashed] at hlast
    have child : t.child at_.folder at_.name = .ok (.link target) := by
      refine (child_eq_ok_iff filled notDot notUp).mpr ⟨folder, short, ?_⟩
      rw [show at_.folder ++ [at_.name] = at_.location from rfl, link]
      rfl
    refine ⟨left, more ▸ .follow child ?_⟩
    rw [List.append_nil, split_of_splitLast hlast]
    exact hw.append last

end Settles

/-- The location of the file that would be written at a path, if one can be. -/
def aim? (t : FileTree) (p : Path) : Option Location := (t.aim p).toOption

theorem aim?_eq_some_iff {t : FileTree} {p : Path} {l : Location} :
    t.aim? p = some l ↔
      ∃ at_, t.place p = .ok (some at_) ∧ Settles t linkLimit at_ l := by
  simp only [← settle_eq_ok_iff]
  unfold aim? aim
  cases t.place p with
  | error e => simp [Except.toOption]
  | ok found =>
    cases found with
    | none => simp [Except.toOption]
    | some at_ => cases hs : t.settle linkLimit at_ <;> simp [Except.toOption, hs]

theorem ne_nil_of_aim? {t : FileTree} {p : Path} {l : Location} (h : t.aim? p = some l) : l ≠ [] := by
  obtain ⟨_, _, settles⟩ := aim?_eq_some_iff.mp h
  exact settles.ne_nil

theorem free_of_aim? {t : FileTree} {p : Path} {l : Location} (h : t.aim? p = some l) :
    t.entryAt? l ≠ some .folder ∧ ∀ target, t.entryAt? l ≠ some (.link target) := by
  obtain ⟨_, _, settles⟩ := aim?_eq_some_iff.mp h
  exact settles.free

/-- Where a path would be written depends on the ground alone. -/
theorem SameGround.aim? {t u : FileTree} (s : SameGround t u) (p : Path) : u.aim? p = t.aim? p := by
  have transfer : ∀ {t u : FileTree} (_ : SameGround t u) {l : Location},
      t.aim? p = some l → u.aim? p = some l := by
    intro t u s l h
    obtain ⟨at_, hp, settles⟩ := aim?_eq_some_iff.mp h
    obtain ⟨hscreen, hp⟩ := place_eq_some_iff.mp hp
    refine aim?_eq_some_iff.mpr ⟨at_, place_eq_some_iff.mpr ⟨hscreen, ?_⟩, settles.sameGround s⟩
    rw [s.start]
    exact s.placeFrom hp
  exact Option.ext fun l => ⟨transfer s.symm, transfer s⟩

/-- A path that can be written has a last name, at a place in a folder. -/
theorem target?_of_aim? {t : FileTree} {p : Path} {l : Location} (h : t.aim? p = some l) :
    ∃ m, t.target? p = some m := by
  obtain ⟨at_, hp, settles⟩ := aim?_eq_some_iff.mp h
  obtain ⟨plain, short⟩ : at_.slashed = false ∧ at_.name.length ≤ longestName := by
    cases settles <;> exact ⟨‹_›, ‹_›⟩
  exact ⟨at_.location, by simp [target?, hp, plain, Nat.not_lt.mpr short]⟩

/-- Where no link is, a file is written at the place of its name. -/
theorem aim?_of_notLink {t : FileTree} {p : Path}
    (notLink : ∀ l, t.target? p = some l → ∀ target, t.entryAt? l ≠ some (.link target))
    {l : Location} :
    t.aim? p = some l ↔ t.target? p = some l ∧ t.entryAt? l ≠ some .folder := by
  constructor
  · intro h
    obtain ⟨at_, hp, settles⟩ := aim?_eq_some_iff.mp h
    have aimed : ∀ {turns : Nat}, Settles t turns at_ l → t.target? p = some l := by
      intro turns settles
      cases settles with
      | here plain short => simp [target?, hp, plain, Nat.not_lt.mpr short]
      | follow plain short link =>
        have target : t.target? p = some at_.location := by
          simp [target?, hp, plain, Nat.not_lt.mpr short]
        exact absurd link (notLink _ target _)
    exact ⟨aimed settles, settles.free.1⟩
  · rintro ⟨target, notFolder⟩
    have noLink := notLink l target
    unfold target? at target
    split at target
    · rename_i at_ hp
      split at target
      · cases target
      · rename_i hs
        simp only [Bool.or_eq_true, decide_eq_true_eq, not_or, Bool.not_eq_true] at hs
        obtain rfl := Option.some.inj target
        exact aim?_eq_some_iff.mpr ⟨at_, hp, .here hs.1 (Nat.not_lt.mp hs.2) notFolder noLink⟩
    · cases target

end HostAccess.FileTree
