import HostAccess.Proofs.FileTree
import HostAccess.Proofs.PathNames

/-!
# What is in a folder

The names in a folder are those of the entries right below its location, in ascending order and each
once. A name that is put after the path of a folder leads one step further than that path. In a tree
that is well formed every name is one that an entry can have and every entry is in a folder; writing and
removing keep a tree like that, if its links can be followed at all.
-/
namespace HostAccess

namespace Bytes

/-- The order of a listing is the order by bytes. -/
theorem le_iff {a b : Bytes} : Bytes.le a b = true ↔ a ≤ b := by
  induction a generalizing b with
  | nil => simp [Bytes.le]
  | cons x a ih =>
    cases b with
    | nil => simp [Bytes.le]
    | cons y b => simp [Bytes.le, List.cons_le_cons_iff, ih]

end Bytes

theorem nodup_eraseDups {α : Type} [BEq α] [LawfulBEq α] (xs : List α) : xs.eraseDups.Nodup := by
  -- Only shorter lists are left when the head's copies are gone.
  induction hn : xs.length using Nat.strongRecOn generalizing xs with
  | ind n ih =>
    cases xs with
    | nil => simp
    | cons x rest =>
      rw [List.eraseDups_cons, List.nodup_cons]
      refine ⟨by simp [List.mem_eraseDups], ih _ ?_ _ rfl⟩
      have shorter := List.length_filter_le (fun b => !b == x) rest
      rw [← hn, List.length_cons]
      omega

namespace Pieces

variable {α : Type}

theorem join_cons (sep : α) (first : List α) (rest : List (List α)) :
    join sep (first :: rest) = first ++ rest.flatMap (sep :: ·) := by
  induction rest generalizing first with
  | nil => simp [join]
  | cons next more ih =>
    rw [join, ih next, List.flatMap_cons, List.cons_append]
    exact List.cons_ne_nil next more

variable [DecidableEq α]

theorem split_head (sep x : α) (xs : List α) :
    (split sep (x :: xs)).head? = some [] ↔ x = sep := by
  rw [split]
  split
  · rename_i hnil
    exact absurd hnil (split_ne_nil sep xs)
  · split
    · simpa
    · simpa

theorem sublist_of_mem_split {sep : α} {xs piece : List α} (h : piece ∈ split sep xs) :
    piece.Sublist xs := by
  obtain ⟨first, rest, hs⟩ := List.exists_cons_of_ne_nil (split_ne_nil sep xs)
  have whole : xs = first ++ rest.flatMap (sep :: ·) := by rw [← join_cons, ← hs, join_split]
  rw [whole]
  rw [hs] at h
  rcases List.mem_cons.mp h with rfl | h
  · exact List.sublist_append_left ..
  · obtain ⟨before, after, rfl⟩ := List.append_of_mem h
    simp only [List.flatMap_append, List.flatMap_cons]
    refine .trans ?_ (List.sublist_append_right ..)
    refine .trans ?_ (List.sublist_append_right ..)
    exact (List.sublist_append_left ..).cons sep

end Pieces

namespace Path

/-- Whether an entry can have this name. -/
structure IsName (name : Bytes) : Prop where
  filled : name ≠ []
  plain : slash ∉ name
  noNul : Bytes.hasNul name = false
  notDot : name ≠ dot
  notUp : name ≠ dotDot
  short : name.length ≤ FileTree.longestName

instance (name : Bytes) : Decidable (IsName name) :=
  decidable_of_iff (name ≠ [] ∧ slash ∉ name ∧ Bytes.hasNul name = false ∧ name ≠ dot ∧
      name ≠ dotDot ∧ name.length ≤ FileTree.longestName)
    ⟨fun ⟨a, b, c, d, e, f⟩ => ⟨a, b, c, d, e, f⟩, fun ⟨a, b, c, d, e, f⟩ => ⟨a, b, c, d, e, f⟩⟩

/-! ## A name after the path of a folder -/

/-- A path without a slash at its end: what a name is put after, with one slash between. -/
def stem (p : Path) : Path := if p.getLast? = some slash then p.dropLast else p

theorem stem_slashed (p : Path) : p = p.stem ∨ p = p.stem ++ [slash] := by
  unfold stem
  split
  · rename_i ended
    obtain ⟨front, rfl⟩ := List.getLast?_eq_some_iff.mp ended
    exact .inr (by rw [List.dropLast_concat])
  · exact .inl rfl

theorem stem_sublist (p : Path) : p.stem.Sublist p := by
  unfold stem
  split
  · exact List.dropLast_sublist p
  · exact .refl p

theorem join_eq {p : Path} (filled : p ≠ []) {name : Bytes} (plain : slash ∉ name) :
    p.join name = p.stem ++ slash :: name := by
  rw [join_of_slash_not_mem plain, stem]
  by_cases ended : p.getLast? = some slash
  · obtain ⟨front, rfl⟩ := List.getLast?_eq_some_iff.mp ended
    rw [if_pos (.inr ended), if_pos ended, List.dropLast_concat, List.append_assoc]
    rfl
  · rw [if_neg (by simp [filled, ended]), if_neg ended]

/-- A slash at the end of a path leaves an empty piece. -/
theorem split_stem (p : Path) : Pieces.split slash p = Pieces.split slash p.stem ∨
    Pieces.split slash p = Pieces.split slash p.stem ++ [[]] := by
  obtain h | h := stem_slashed p
  · rw [← h]
    exact .inl rfl
  · refine .inr ?_
    conv_lhs => rw [h, Pieces.split_concat]
    rfl

theorem split_join_stem {p : Path} (filled : p ≠ []) {name : Bytes} (plain : slash ∉ name) :
    Pieces.split slash (p.join name) = Pieces.split slash p.stem ++ [name] := by
  rw [join_eq filled plain, Pieces.split_concat, Pieces.split_of_not_mem plain]

/-- A path is from the root if nothing comes before its first slash. -/
theorem isAbsolute_iff {p : Path} (filled : p ≠ []) :
    p.isAbsolute = true ↔ (Pieces.split slash p.stem).head? = some [] := by
  obtain ⟨b, rest, rfl⟩ := List.exists_cons_of_ne_nil filled
  have whole : isAbsolute (b :: rest) = true ↔ (Pieces.split slash (b :: rest)).head? = some [] := by
    rw [Pieces.split_head]
    simp [isAbsolute]
  rw [whole]
  obtain h | h := split_stem (b :: rest)
  · rw [h]
  · rw [h, List.head?_append_of_ne_nil _ (Pieces.split_ne_nil slash _)]

/-- Whether a piece between slashes is a name in the path that it stands in. -/
def isCounted (piece : Bytes) : Bool := !piece.isEmpty && piece != dot

theorem names_of_split {p : Path} {first : Bytes} {rest : List Bytes}
    (hp : Pieces.split slash p = first :: rest) :
    p.names = (if first.isEmpty then [] else [first]) ++ rest.filter isCounted := by
  unfold names
  rw [hp]
  rfl

theorem names_stem (p : Path) : p.stem.names = p.names := by
  obtain ⟨first, rest, hs⟩ := List.exists_cons_of_ne_nil (Pieces.split_ne_nil slash p.stem)
  obtain hp | hp := split_stem p
  · rw [names_of_split (hp.trans hs), names_of_split hs]
  · rw [hs] at hp
    rw [names_of_split hs, names_of_split (hp.trans (List.cons_append ..)), List.filter_append]
    simp [isCounted]

theorem names_join {p : Path} (filled : p ≠ []) {name : Bytes} (plain : slash ∉ name) :
    (p.join name).names = p.names ++ [name].filter isCounted := by
  obtain ⟨first, rest, hs⟩ := List.exists_cons_of_ne_nil (Pieces.split_ne_nil slash p.stem)
  have hjoin := split_join_stem filled plain
  rw [hs] at hjoin
  rw [← names_stem p, names_of_split hs, names_of_split (hjoin.trans (List.cons_append ..)),
    List.filter_append, List.append_assoc]

/-- A name after a path that does not begin with `.` makes it no path that does. -/
theorem named_join {p : Path} (filled : p ≠ []) (named : p.names.head? ≠ some dot) {name : Bytes}
    (plain : slash ∉ name) : (p.join name).names.head? ≠ some dot := by
  rw [names_join filled plain]
  cases hp : p.names with
  | nil =>
    rw [List.nil_append]
    intro h
    have counted := (List.mem_filter.mp (List.mem_of_head? h)).2
    simp [isCounted] at counted
  | cons first rest => simpa [hp] using named

theorem IsName.counted {name : Bytes} (h : IsName name) : [name].filter isCounted = [name] := by
  simp [isCounted, h.filled, h.notDot]

theorem fileName?_join {p : Path} (filled : p ≠ []) {name : Bytes} (h : IsName name) :
    (p.join name).fileName? = some name := by
  simp [fileName?, names_join filled h.plain, h.counted, h.notDot, h.notUp]

theorem extension?_join {p : Path} (filled : p ≠ []) {name : Bytes} (h : IsName name) :
    (p.join name).extension? = extensionOf? name := by
  simp [extension?, fileName?_join filled h]

end Path

namespace FileTree

theorem screen_eq_ok_iff {p : Path} :
    screen p = .ok () ↔ Bytes.hasNul p = false ∧ p ≠ [] ∧ p.length < pathLimit := by
  unfold screen
  cases Bytes.hasNul p with
  | true => simp
  | false =>
    cases p with
    | nil => simp
    | cons b rest => simp

theorem hasNul_of_sublist {p q : Path} (h : Bytes.hasNul p = false) (part : q.Sublist p) :
    Bytes.hasNul q = false := by
  unfold Bytes.hasNul at h ⊢
  rw [List.contains_eq_mem, decide_eq_false_iff_not] at h ⊢
  exact fun hq => h (part.subset hq)

/-- What is part of a path that can be looked up can be looked up. -/
theorem screen_of_sublist {p q : Path} (h : screen p = .ok ()) (filled : q ≠ [])
    (part : q.Sublist p) : screen q = .ok () := by
  obtain ⟨noNul, -, short⟩ := screen_eq_ok_iff.mp h
  exact screen_eq_ok_iff.mpr
    ⟨hasNul_of_sublist noNul part, filled, Nat.lt_of_le_of_lt part.length_le short⟩

theorem ne_nil_of_locate {t : FileTree} {p : Path} {l : Location} (h : t.locate p = .ok l) : p ≠ [] :=
  (screen_eq_ok_iff.mp (locate_eq_ok.mp h).1).2.1

theorem has_of_locate {t : FileTree} {p : Path} {l : Location} (h : t.locate p = .ok l) :
    t.has p = true := by
  simp [has, h, Except.toOption]

theorem isFolder_iff {t : FileTree} {p : Path} :
    t.isFolder p = true ↔ ∃ l, t.locate p = .ok l ∧ t.entryAt? l = some .folder := by
  unfold isFolder
  cases t.locate p <;> simp [isFolderAt_iff]

/-- Where a path leads, and how many links may be followed from there. -/
def Leads (t : FileTree) (p : Path) (l : Location) (left : Nat) : Prop :=
  screen p = .ok () ∧ Walks t linkLimit (t.start p) (Pieces.split Path.slash p) l left

theorem locate_eq_ok_iff_leads {t : FileTree} {p : Path} {l : Location} :
    t.locate p = .ok l ↔ ∃ left, t.Leads p l left := by
  simp only [locate_eq_ok, Leads, exists_and_left]

/-- A slash at the end of a path leads no further. -/
theorem walks_stem {t : FileTree} {p : Path} {links left : Nat} {k l : Location}
    (h : Walks t links k (Pieces.split Path.slash p) l left) :
    Walks t links k (Pieces.split Path.slash p.stem) l left := by
  obtain hp | hp := Path.split_stem p
  · rwa [← hp]
  · rw [hp] at h
    obtain ⟨m, n, before, last⟩ := h.of_append
    cases last with
    | on child rest =>
      obtain ⟨-, same⟩ := child_nil.mp child
      obtain rfl := Lead.place.inj same
      cases rest
      exact before
    | follow child _ => cases (child_nil.mp child).2

/-- A name after a path leads from where the path leads. -/
theorem leads_join {t : FileTree} {p : Path} {l m : Location} {name : Bytes} {links left : Nat}
    (leads : t.Leads p l links) (plain : Path.slash ∉ name) :
    t.Leads (p.join name) m left ↔
      screen (p.join name) = .ok () ∧ Walks t links l [name] m left := by
  have filled : p ≠ [] := (screen_eq_ok_iff.mp leads.1).2.1
  have before := walks_stem leads.2
  have hstart : t.start (p.join name) = t.start p := by
    unfold start startFrom
    rw [Path.isAbsolute_join plain]
  unfold Leads
  rw [hstart, Path.split_join_stem filled plain]
  refine and_congr_right fun _ => ⟨fun walks => ?_, before.append⟩
  obtain ⟨k, n, hk, last⟩ := walks.of_append
  obtain ⟨rfl, rfl⟩ := before.unique hk
  exact last

/-! ## The names in a folder -/

theorem nameIn?_eq_some_iff {l m : Location} {name : Bytes} :
    nameIn? l m = some name ↔ m = l ++ [name] := by
  unfold nameIn?
  constructor
  · intro h
    split at h
    · rename_i last hlast
      split at h
      · rename_i hl
        obtain rfl := Option.some.inj h
        obtain ⟨front, rfl⟩ := List.getLast?_eq_some_iff.mp hlast
        rw [List.dropLast_concat] at hl
        rw [eq_of_beq hl]
      · cases h
    · cases h
  · rintro rfl
    simp

theorem exists_mem_of_entryAt? {t : FileTree} {l : Location} {e : Entry} (hl : l ≠ [])
    (h : t.entryAt? l = some e) : ∃ e', (l, e') ∈ t.entries := by
  rw [entryAt?_of_ne hl] at h
  obtain ⟨x, hx, hkey⟩ := List.lookup_isSome_iff.mp (by rw [h]; rfl)
  exact ⟨x.2, (eq_of_beq hkey) ▸ hx⟩

theorem mem_namesIn_iff {t : FileTree} {l : Location} {name : Bytes} :
    name ∈ t.namesIn l ↔ (t.entryAt? (l ++ [name])).isSome = true := by
  have hl : l ++ [name] ≠ [] := by simp
  unfold namesIn
  rw [(List.mergeSort_perm _ _).mem_iff, List.mem_eraseDups, List.mem_filterMap, entryAt?_of_ne hl,
    List.lookup_isSome_iff]
  refine exists_congr fun e => and_congr_right fun _ => ?_
  rw [nameIn?_eq_some_iff, beq_iff_eq]
  exact eq_comm

/-- The names in a folder come in ascending order and each once. -/
theorem namesIn_ascending (t : FileTree) (l : Location) : (t.namesIn l).Pairwise (· < ·) := by
  unfold namesIn
  generalize t.entries.filterMap (fun e => nameIn? l e.1) = names
  have sorted : (names.eraseDups.mergeSort Bytes.le).Pairwise (· ≤ ·) := by
    refine (List.pairwise_mergeSort (fun a b c hab hbc => ?_) (fun a b => ?_) names.eraseDups).imp
      Bytes.le_iff.mp
    · exact Bytes.le_iff.mpr (List.le_trans (Bytes.le_iff.mp hab) (Bytes.le_iff.mp hbc))
    · simpa [Bytes.le_iff] using List.le_total a b
  have distinct : (names.eraseDups.mergeSort Bytes.le).Nodup :=
    (List.mergeSort_perm _ _).nodup_iff.mpr (nodup_eraseDups names)
  refine sorted.imp₂ (fun a b hle hne => ?_) distinct
  exact List.not_le.mp fun hge => hne (List.le_antisymm hle hge)

/-- Whether there is an entry of a name in the folder that a path leads to. -/
def HasEntry (t : FileTree) (p : Path) (name : Bytes) : Prop :=
  ∃ l, t.locate p = .ok l ∧ t.entryAt? l = some .folder ∧ (t.entryAt? (l ++ [name])).isSome = true

/-! ## Trees that can be -/

/-- Whether every name in a tree is the name of an entry, and every entry is in a folder. -/
structure WellFormed (t : FileTree) : Prop where
  named : ∀ e ∈ t.entries, ∀ name ∈ e.1, Path.IsName name
  held : ∀ e ∈ t.entries, t.entryAt? e.1.dropLast = some .folder

instance (t : FileTree) : Decidable t.WellFormed :=
  decidable_of_iff ((∀ e ∈ t.entries, ∀ name ∈ e.1, Path.IsName name) ∧
      ∀ e ∈ t.entries, t.entryAt? e.1.dropLast = some .folder)
    ⟨fun h => ⟨h.1, h.2⟩, fun h => ⟨h.named, h.held⟩⟩

theorem WellFormed.isName_of_entryAt? {t : FileTree} (wf : t.WellFormed) {l : Location} {e : Entry}
    (h : t.entryAt? l = some e) : ∀ name ∈ l, Path.IsName name := by
  intro name hname
  obtain ⟨e', he'⟩ := exists_mem_of_entryAt? (List.ne_nil_of_mem hname) h
  exact wf.named _ he' name hname

theorem WellFormed.isName_of_mem_namesIn {t : FileTree} (wf : t.WellFormed) {l : Location}
    {name : Bytes} (h : name ∈ t.namesIn l) : Path.IsName name := by
  obtain ⟨e, he⟩ := Option.isSome_iff_exists.mp (mem_namesIn_iff.mp h)
  exact wf.isName_of_entryAt? he name (by simp)

/-- What is above a folder is a folder. -/
theorem WellFormed.folder_dropLast {t : FileTree} (wf : t.WellFormed) {l : Location}
    (h : t.entryAt? l = some .folder) : t.entryAt? l.dropLast = some .folder := by
  by_cases hl : l = []
  · rw [hl]
    rfl
  · obtain ⟨e, he⟩ := exists_mem_of_entryAt? hl h
    exact wf.held _ he

/-- A file at the path of a name in a folder is an entry of that name, or what a link of that name
leads to. -/
theorem WellFormed.hasEntry_of_hasFile {t : FileTree} (wf : t.WellFormed) {p : Path} {l : Location}
    (leads : t.locate p = .ok l) (folder : t.entryAt? l = some .folder) {name : Bytes}
    (filled : name ≠ []) (plain : Path.slash ∉ name) (h : t.HasFile (p.join name)) :
    t.HasEntry p name := by
  obtain ⟨contents, h⟩ := h
  obtain ⟨m, mode, hm, file⟩ := read_eq_ok.mp h
  obtain ⟨links, route⟩ := locate_eq_ok_iff_leads.mp leads
  obtain ⟨left, whole⟩ := locate_eq_ok_iff_leads.mp hm
  obtain ⟨-, last⟩ := (leads_join route plain).mp whole
  -- Neither `.` nor `..` leads to a file.
  have notFile : ∀ {k}, t.child l name = .ok (.place k) → t.entryAt? k ≠ some .folder := by
    intro k child standing
    have first : Walks t links l [name] k links := .singleton child
    obtain rfl := last.end_unique first
    rw [standing] at file
    cases file
  have hfolder := isFolderAt_iff.mpr folder
  have notDot : name ≠ Path.dot := by
    rintro rfl
    exact notFile (k := l) (by simp [child, hfolder]) folder
  have notUp : name ≠ Path.dotDot := by
    rintro rfl
    refine notFile (k := l.dropLast) ?_ (wf.folder_dropLast folder)
    simp [child, hfolder, Path.dot, Path.dotDot]
  have entry : ∀ {lead}, t.child l name = .ok lead → (t.entryAt? (l ++ [name])).isSome = true := by
    intro lead child
    obtain ⟨-, -, leadsBy⟩ := (child_eq_ok_iff filled notDot notUp).mp child
    cases he : t.entryAt? (l ++ [name]) with
    | none => simp [he, leadBy] at leadsBy
    | some e => rfl
  refine ⟨l, leads, folder, ?_⟩
  cases last with
  | on child _ => exact entry child
  | follow child _ => exact entry child

/-! ## Files come and go -/

/-- Whether the system could follow every link as far as its text goes. -/
def HasPlainLinks (t : FileTree) : Prop :=
  ∀ l target, t.entryAt? l = some (.link target) → Bytes.hasNul target = false

/-- Whether there can be an entry at a location: its names are those of entries, and it is in a
folder. -/
structure Fits (t : FileTree) (l : Location) : Prop where
  named : ∀ name ∈ l, Path.IsName name
  held : t.entryAt? l.dropLast = some .folder

/-- The last name of a path that can be about a file fits into the folder that comes before it. -/
theorem WellFormed.fits_of_placeFrom {t : FileTree} (wf : t.WellFormed) {links : Nat} {l : Location}
    {p : Path} {at_ : Place} (noNul : Bytes.hasNul p = false)
    (place : t.placeFrom links l p = .ok (some at_)) (unslashed : at_.slashed = false)
    (short : at_.name.length ≤ longestName) : t.Fits at_.location := by
  obtain ⟨before, last, -, folder, notDot, notUp⟩ := placeFrom_eq_some_iff.mp place
  rw [unslashed] at last
  have hmem : at_.name ∈ Pieces.split Path.slash p := by simp [split_of_splitLast last]
  have isName : Path.IsName at_.name :=
    ⟨ne_nil_of_splitLast last, Pieces.not_mem_of_mem_split hmem,
      hasNul_of_sublist noNul (Pieces.sublist_of_mem_split hmem), notDot, notUp, short⟩
  constructor
  · intro name hname
    rcases List.mem_append.mp hname with hname | hname
    · exact wf.isName_of_entryAt? folder name hname
    · exact List.mem_singleton.mp hname ▸ isName
  · rwa [Place.location, List.dropLast_concat]

/-- What would be written at a place fits where it would be. -/
theorem WellFormed.fits_of_settles {t : FileTree} (wf : t.WellFormed) (linked : t.HasPlainLinks)
    {turns : Nat} {at_ : Place} {l : Location} (settles : Settles t turns at_ l) {links : Nat}
    {m : Location} {p : Path} (noNul : Bytes.hasNul p = false)
    (place : t.placeFrom links m p = .ok (some at_)) : t.Fits l := by
  induction settles generalizing links m p with
  | here unslashed short _ _ => exact wf.fits_of_placeFrom noNul place unslashed short
  | follow _ _ link _ leads _ ih => exact ih (linked _ _ link) leads

theorem WellFormed.fits_of_aim? {t : FileTree} (wf : t.WellFormed) (linked : t.HasPlainLinks)
    {p : Path} {l : Location} (h : t.aim? p = some l) : t.Fits l := by
  obtain ⟨at_, hp, settles⟩ := aim?_eq_some_iff.mp h
  obtain ⟨screened, place⟩ := place_eq_some_iff.mp hp
  exact wf.fits_of_settles linked settles (screen_eq_ok_iff.mp screened).1 place

/-- What is new in a tree fits into it, and its folders are those of a well-formed tree. -/
theorem WellFormed.of_folders {t u : FileTree} (wf : t.WellFormed)
    (folders : ∀ l, t.entryAt? l = some .folder → u.entryAt? l = some .folder)
    (new : ∀ e ∈ u.entries, e ∈ t.entries ∨ t.Fits e.1) : u.WellFormed where
  named e he := (new e he).elim (wf.named e) Fits.named
  held e he := folders _ ((new e he).elim (wf.held e) Fits.held)

theorem mem_putAll {t : FileTree} {contents : Bytes} {mode : Mode} {names : List Location}
    {e : Location × Entry} (h : e ∈ (t.putAll contents mode names).entries) :
    e ∈ t.entries ∨ e.1 ∈ names := by
  induction names generalizing t with
  | nil => exact .inl h
  | cons l rest ih =>
    rcases ih (t := t.put l (.file contents mode)) h with h | h
    · rcases List.mem_cons.mp h with rfl | h
      · exact .inr List.mem_cons_self
      · exact .inl (List.mem_of_mem_filter h)
    · exact .inr (List.mem_cons_of_mem l h)

theorem WellFormed.store {t : FileTree} {contents : Bytes} (wf : t.WellFormed) {l : Location}
    (fits : t.Fits l) (s : SameGround t (t.store l contents)) : (t.store l contents).WellFormed := by
  refine wf.of_folders (fun m => (s.folders m).mpr) fun e he => ?_
  rcases mem_putAll he with he | he
  · exact .inl he
  · -- Another name of a file is that of an entry.
    rcases mem_namesOf_iff.mp he with same | ⟨serial, -, hm⟩
    · exact .inr (same ▸ fits)
    · obtain ⟨_, _, file⟩ := file_of_serialAt? hm
      obtain ⟨e', standing⟩ := exists_mem_of_entryAt? (ne_nil_of_file file) file
      exact .inr ⟨wf.named (e.1, e') standing, wf.held (e.1, e') standing⟩

/-- Writing and removing keep a tree well formed, and put no link anywhere. -/
theorem lasts_wellFormed : Lasts fun t => t.WellFormed ∧ t.HasPlainLinks where
  write := by
    rintro t p contents ⟨wf, linked⟩
    have s := t.sameGround_left_write p contents
    refine ⟨?_, fun l target link => linked l target ((s.links l target).mp link)⟩
    obtain h | ⟨l, part, aims, h⟩ := t.left_write_cases p contents
    · rwa [h]
    · rw [h] at s ⊢
      exact wf.store (wf.fits_of_aim? linked aims) s
  discard := by
    rintro t p ⟨wf, linked⟩
    refine ⟨?_, fun l target link => linked l target (link_of_discard link)⟩
    obtain h | ⟨l, e, hl, he, hf, h⟩ := t.discard_cases p
    · rwa [h]
    · rw [h]
      refine wf.of_folders (fun m folder => ?_) fun _ kept => .inl (List.mem_of_mem_filter kept)
      have other : m ≠ l := fun same => hf (Option.some.inj (he.symm.trans (same ▸ folder)))
      rw [entryAt?_erase (ne_nil_of_target? hl), if_neg other, folder]

end FileTree

end HostAccess
