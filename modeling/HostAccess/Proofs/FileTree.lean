import HostAccess.Proofs.Walks

/-!
# Writing, removing and reading files

Given where a path leads, writing is a change of one file under all its names, removing takes away one
entry, and reading is a look at one. None of them changes folders or bars, and links change only by
being removed. A file stays where it is to be removed only if the system refuses to remove it.
-/
namespace HostAccess.FileTree

/-! ## The names of a file -/

/-- Whether two locations are names of one file, as each is of its own. -/
def SameFile (t : FileTree) (l m : Location) : Prop :=
  m = l ∨ ∃ serial, t.serialAt? l = some serial ∧ t.serialAt? m = some serial

theorem modeAt_of_file {t : FileTree} {l : Location} {contents : Bytes} {mode : Mode}
    (h : t.entryAt? l = some (.file contents mode)) : t.modeAt l = mode := by
  simp [modeAt, h]

theorem file_of_serialAt? {t : FileTree} {l : Location} {serial : Nat}
    (h : t.serialAt? l = some serial) : ∃ contents mode, t.entryAt? l = some (.file contents mode) := by
  unfold serialAt? modeAt at h
  split at h
  · exact ⟨_, _, ‹_›⟩
  · cases h

theorem serialAt?_of_entryAt? {t u : FileTree} {l : Location} (h : u.entryAt? l = t.entryAt? l) :
    u.serialAt? l = t.serialAt? l := by
  unfold serialAt? modeAt
  rw [h]

theorem ne_nil_of_file {t : FileTree} {l : Location} {contents : Bytes} {mode : Mode}
    (h : t.entryAt? l = some (.file contents mode)) : l ≠ [] := by
  rintro rfl
  simp [entryAt?] at h

theorem mem_namesOf_iff {t : FileTree} {l m : Location} : m ∈ t.namesOf l ↔ t.SameFile l m := by
  unfold namesOf SameFile
  cases hs : t.serialAt? l with
  | none => simp
  | some serial =>
    simp only [List.mem_filter, beq_iff_eq, Option.some.injEq, exists_eq_left']
    refine ⟨fun h => .inr h.2, fun h => ?_⟩
    have hm : t.serialAt? m = some serial := by
      obtain rfl | hm := h
      · exact hs
      · exact hm
    obtain ⟨contents, mode, he⟩ := file_of_serialAt? hm
    rw [entryAt?_of_ne (ne_nil_of_file he)] at he
    obtain ⟨x, hx, hkey⟩ := List.lookup_isSome_iff.mp (by rw [he]; rfl)
    exact ⟨List.mem_map.mpr ⟨x, hx, (eq_of_beq hkey).symm⟩, hm⟩

instance (t : FileTree) (l m : Location) : Decidable (t.SameFile l m) :=
  decidable_of_iff (m ∈ t.namesOf l) mem_namesOf_iff

theorem SameFile.symm {t : FileTree} {l m : Location} (h : t.SameFile l m) : t.SameFile m l :=
  h.imp Eq.symm fun ⟨serial, hl, hm⟩ => ⟨serial, hm, hl⟩

theorem sameFile_congr {t u : FileTree} (h : ∀ m, u.serialAt? m = t.serialAt? m) (l m : Location) :
    u.SameFile l m ↔ t.SameFile l m := by
  simp only [SameFile, h]

theorem SameFile.ne_nil {t : FileTree} {l m : Location} (h : t.SameFile l m) (hl : l ≠ []) : m ≠ [] := by
  obtain rfl | ⟨serial, -, hm⟩ := h
  · exact hl
  · obtain ⟨_, _, he⟩ := file_of_serialAt? hm
    exact ne_nil_of_file he

theorem entryAt?_putAll {t : FileTree} {names : List Location} (hn : ∀ l ∈ names, l ≠ [])
    (contents : Bytes) (mode : Mode) (m : Location) :
    (t.putAll contents mode names).entryAt? m =
      if m ∈ names then some (.file contents mode) else t.entryAt? m := by
  induction names generalizing t with
  | nil => rfl
  | cons l rest ih =>
    have step : t.putAll contents mode (l :: rest) =
        (t.put l (.file contents mode)).putAll contents mode rest := rfl
    rw [step, ih fun k hk => hn k (List.mem_cons_of_mem _ hk), entryAt?_put (hn l List.mem_cons_self)]
    by_cases hm : m ∈ rest
    · simp [hm]
    · by_cases hml : m = l
      · simp [hml]
      · simp [hm, hml]

/-- What is put into a file is found under all its names, and nothing else changes. -/
theorem entryAt?_store {t : FileTree} {l : Location} (hl : l ≠ []) (contents : Bytes) (m : Location) :
    (t.store l contents).entryAt? m =
      if t.SameFile l m then some (.file contents (t.modeAt l)) else t.entryAt? m := by
  unfold store
  rw [entryAt?_putAll fun k hk => (mem_namesOf_iff.mp hk).ne_nil hl]
  simp only [mem_namesOf_iff]

theorem serialAt?_store {t : FileTree} {l : Location} (hl : l ≠ []) (contents : Bytes)
    (m : Location) : (t.store l contents).serialAt? m = t.serialAt? m := by
  have he := t.entryAt?_store hl contents m
  split at he
  · rename_i same
    have stored : (t.store l contents).serialAt? m = t.serialAt? l := by
      unfold serialAt?
      rw [modeAt_of_file he]
    obtain rfl | ⟨serial, hs, hm⟩ := same
    · exact stored
    · rw [stored, hs, hm]
  · exact serialAt?_of_entryAt? he

theorem sameFile_store {t : FileTree} {l : Location} (hl : l ≠ []) (contents : Bytes)
    (a b : Location) : (t.store l contents).SameFile a b ↔ t.SameFile a b :=
  sameFile_congr (serialAt?_store hl contents) a b

theorem bars_putAll (t : FileTree) (contents : Bytes) (mode : Mode) (names : List Location) :
    (t.putAll contents mode names).bars = t.bars ∧ (t.putAll contents mode names).home = t.home := by
  induction names generalizing t with
  | nil => exact ⟨rfl, rfl⟩
  | cons l rest ih => exact ih (t.put l (.file contents mode))

/-! ## What changes leave alone -/

theorem sameGround_store {t : FileTree} {l : Location} (hl : l ≠ [])
    (free : t.entryAt? l ≠ some .folder ∧ ∀ target, t.entryAt? l ≠ some (.link target))
    (contents : Bytes) : SameGround t (t.store l contents) := by
  have file : ∀ m, t.SameFile l m →
      t.entryAt? m ≠ some .folder ∧ ∀ target, t.entryAt? m ≠ some (.link target) := by
    rintro m (rfl | ⟨serial, -, hm⟩)
    · exact free
    · obtain ⟨_, _, he⟩ := file_of_serialAt? hm
      simp [he]
  obtain ⟨bars, home⟩ := t.bars_putAll contents (t.modeAt l) (t.namesOf l)
  refine ⟨home, bars, fun m => ?_, fun m target => ?_⟩
  · rw [entryAt?_store hl]
    split
    · rename_i same
      simp [(file m same).1]
    · rfl
  · rw [entryAt?_store hl]
    split
    · rename_i same
      simp [(file m same).2 target]
    · rfl

theorem sameGround_erase {t : FileTree} {l : Location} (hl : l ≠ [])
    (free : t.entryAt? l ≠ some .folder ∧ ∀ target, t.entryAt? l ≠ some (.link target)) :
    SameGround t (t.erase l) := by
  refine ⟨rfl, rfl, fun m => ?_, fun m target => ?_⟩
  · rw [entryAt?_erase hl]
    split
    · rename_i same
      simp [same, free.1]
    · rfl
  · rw [entryAt?_erase hl]
    split
    · rename_i same
      simp [same, free.2 target]
    · rfl

/-! ## Writing -/

/-- The contents are taken as a whole at the location that the path would be written at. -/
structure Takes (t : FileTree) (p : Path) (contents : Bytes) (l : Location) : Prop where
  aim : t.aim? p = some l
  opens : (t.barsAt l).opening = none
  whole : (t.barsAt l).cut? contents = none

theorem SameGround.takes {t u : FileTree} (s : SameGround t u) {p : Path} {contents : Bytes}
    {l : Location} (h : t.Takes p contents l) : u.Takes p contents l :=
  ⟨(s.aim? p).trans h.aim, by rw [s.barsAt, h.opens], by rw [s.barsAt, h.whole]⟩

theorem write_of_aim? {t : FileTree} {p : Path} {l : Location} (h : t.aim? p = some l)
    (contents : Bytes) : t.write p contents = t.fill l contents := by
  unfold aim? at h
  unfold write
  cases ha : t.aim p with
  | error cause => simp [ha, Except.toOption] at h
  | ok m =>
    obtain rfl : m = l := by simpa [ha, Except.toOption] using h
    rfl

/-- A file is filled unless the system refuses to open it, or to take all that is written to it. -/
theorem fill_eq_ok_iff {t u : FileTree} {l : Location} {contents : Bytes} :
    t.fill l contents = .ok u ↔ (t.barsAt l).opening = none ∧ (t.barsAt l).cut? contents = none ∧
      u = t.store l contents := by
  unfold fill
  cases (t.barsAt l).opening with
  | some n => simp
  | none =>
    cases (t.barsAt l).cut? contents with
    | some limit => simp
    | none => simp [eq_comm]

theorem write_eq_ok_iff {t u : FileTree} {p : Path} {contents : Bytes} :
    t.write p contents = .ok u ↔ ∃ l, t.Takes p contents l ∧ u = t.store l contents := by
  cases ha : t.aim? p with
  | none =>
    constructor
    · intro h
      unfold aim? at ha
      unfold write at h
      cases hp : t.aim p with
      | error cause => simp [hp] at h
      | ok m => simp [hp, Except.toOption] at ha
    · rintro ⟨l, takes, -⟩
      exact absurd (ha.symm.trans takes.aim) (by simp)
  | some l =>
    rw [write_of_aim? ha, fill_eq_ok_iff]
    constructor
    · rintro ⟨opens, whole, stored⟩
      exact ⟨l, ⟨ha, opens, whole⟩, stored⟩
    · rintro ⟨m, takes, stored⟩
      obtain rfl := Option.some.inj (takes.aim.symm.trans ha)
      exact ⟨takes.opens, takes.whole, stored⟩

/-- A file can be written exactly where the contents are taken. -/
theorem writable_iff {t : FileTree} {p : Path} {contents : Bytes} :
    (∃ u, t.write p contents = .ok u) ↔ ∃ l, t.Takes p contents l := by
  simp only [write_eq_ok_iff]
  exact ⟨fun ⟨_, l, takes, _⟩ => ⟨l, takes⟩, fun ⟨l, takes⟩ => ⟨_, l, takes, rfl⟩⟩

/-- Whether a path can be written does not change while files come and go. -/
theorem SameGround.writable {t u : FileTree} (s : SameGround t u) {p : Path} {contents : Bytes}
    (h : ∃ v, t.write p contents = .ok v) : ∃ v, u.write p contents = .ok v := by
  obtain ⟨l, takes⟩ := writable_iff.mp h
  exact writable_iff.mpr ⟨l, s.takes takes⟩

/-- The tree that writing leaves, whether it succeeds or not. -/
def left {ε : Type} : Except (ε × FileTree) FileTree → FileTree
  | .ok u => u
  | .error (_, u) => u

theorem eq_left_of_ok {ε : Type} {written : Except (ε × FileTree) FileTree} {u : FileTree}
    (h : written = .ok u) : u = left written := by
  rw [h]
  rfl

/-- If nothing has been put into the file that is written, then nothing has changed. -/
theorem left_write_cases (t : FileTree) (p : Path) (contents : Bytes) :
    left (t.write p contents) = t ∨
      ∃ l part, t.aim? p = some l ∧ left (t.write p contents) = t.store l part := by
  cases ha : t.aim? p with
  | none =>
    unfold aim? at ha
    unfold write
    cases hp : t.aim p with
    | error cause => exact .inl rfl
    | ok m => simp [hp, Except.toOption] at ha
  | some l =>
    rw [write_of_aim? ha]
    unfold fill
    cases (t.barsAt l).opening with
    | some n => exact .inl rfl
    | none =>
      cases (t.barsAt l).cut? contents with
      | some limit => exact .inr ⟨l, _, rfl, rfl⟩
      | none => exact .inr ⟨l, _, rfl, rfl⟩

theorem sameGround_left_write (t : FileTree) (p : Path) (contents : Bytes) :
    SameGround t (left (t.write p contents)) := by
  obtain h | ⟨l, part, ha, h⟩ := t.left_write_cases p contents
  · rw [h]
    exact .refl t
  · rw [h]
    exact sameGround_store (ne_nil_of_aim? ha) (free_of_aim? ha) part

theorem sameGround_write {t u : FileTree} {p : Path} {contents : Bytes}
    (h : t.write p contents = .ok u) : SameGround t u := by
  have s := t.sameGround_left_write p contents
  rwa [h] at s

theorem namesFile_of_write {t u : FileTree} {p : Path} {contents : Bytes}
    (h : t.write p contents = .ok u) : ∃ before name, NamesFile p before name := by
  obtain ⟨l, takes, _⟩ := write_eq_ok_iff.mp h
  obtain ⟨m, hm⟩ := target?_of_aim? takes.aim
  exact namesFile_of_target? hm

/-- Whether these contents are taken as a whole at a path, if the file there can be opened at all. -/
def Whole (t : FileTree) (p : Path) (contents : Bytes) : Prop :=
  ∀ l, t.aim? p = some l → (t.barsAt l).opening = none → (t.barsAt l).cut? contents = none

theorem SameGround.whole {t u : FileTree} (s : SameGround t u) {p : Path} {contents : Bytes}
    (whole : t.Whole p contents) : u.Whole p contents := by
  intro l hl opens
  rw [s.barsAt] at opens ⊢
  exact whole l ((s.aim? p).symm.trans hl) opens

/-- Whole contents fail to be written without a trace. -/
theorem Whole.of_error {t u : FileTree} {p : Path} {contents : Bytes} {cause : SystemError}
    (whole : t.Whole p contents) (h : t.write p contents = .error (cause, u)) : u = t := by
  cases ha : t.aim? p with
  | none =>
    obtain same | ⟨l, _, hl, _⟩ := t.left_write_cases p contents
    · rwa [h] at same
    · rw [ha] at hl
      cases hl
  | some l =>
    rw [write_of_aim? ha] at h
    unfold fill at h
    cases ho : (t.barsAt l).opening with
    | some n =>
      simp only [ho] at h
      exact (Prod.mk.inj (Except.error.inj h)).2.symm
    | none => simp [ho, whole l ha ho] at h

/-- What writing to a path may change: the file that the path would be written at, under each of its
names. -/
def Reaches (t : FileTree) (p : Path) (m : Location) : Prop := ∃ l, t.aim? p = some l ∧ t.SameFile l m

/-- Writing changes no entry but those that the path reaches, whether it succeeds or not. -/
theorem entryAt?_left_write {t : FileTree} {p : Path} (contents : Bytes) {m : Location}
    (hm : ¬ t.Reaches p m) : (left (t.write p contents)).entryAt? m = t.entryAt? m := by
  obtain h | ⟨l, part, ha, h⟩ := t.left_write_cases p contents
  · rw [h]
  · rw [h, entryAt?_store (ne_nil_of_aim? ha), if_neg fun same => hm ⟨l, ha, same⟩]

theorem entryAt?_write {t u : FileTree} {p : Path} {contents : Bytes}
    (h : t.write p contents = .ok u) {m : Location} (hm : ¬ t.Reaches p m) :
    u.entryAt? m = t.entryAt? m := by
  have hleft := t.entryAt?_left_write contents hm
  rwa [h] at hleft

theorem serialAt?_left_write (t : FileTree) (p : Path) (contents : Bytes) (m : Location) :
    (left (t.write p contents)).serialAt? m = t.serialAt? m := by
  obtain h | ⟨l, part, ha, h⟩ := t.left_write_cases p contents
  · rw [h]
  · rw [h, serialAt?_store (ne_nil_of_aim? ha)]

/-- Writing makes no two locations names of one file. -/
theorem sameFile_left_write (t : FileTree) (p : Path) (contents : Bytes) (l m : Location) :
    (left (t.write p contents)).SameFile l m ↔ t.SameFile l m :=
  sameFile_congr (t.serialAt?_left_write p contents) l m

theorem reaches_left_write (t : FileTree) (q : Path) (contents : Bytes) (p : Path) (m : Location) :
    (left (t.write q contents)).Reaches p m ↔ t.Reaches p m := by
  simp only [Reaches, sameFile_left_write, (t.sameGround_left_write q contents).aim?]

/-! ## Removing -/

theorem remove_eq_ok {t u : FileTree} {p : Path} (h : t.remove p = .ok u) :
    ∃ l e, t.target? p = some l ∧ t.entryAt? l = some e ∧ e ≠ .folder ∧
      (t.barsAt l).removal = none ∧ u = t.erase l := by
  unfold remove at h
  simp only [bind, Except.bind] at h
  split at h
  · cases h
  rename_i found hp
  cases found with
  | none => cases h
  | some at_ =>
    simp only at h
    split at h
    · cases h
    rename_i hlen
    split at h
    · cases h
    rename_i e he
    split at h
    · cases h
    rename_i hs
    split at h
    · cases h
    rename_i hbar
    split at h
    · cases h
    rename_i hf
    have ht : t.target? p = some at_.location := by simp [target?, hp, hs, hlen]
    exact ⟨_, e, ht, he, hf, hbar, (Except.ok.inj h).symm⟩

section

variable {t : FileTree} {p : Path} {l : Location} (hl : t.target? p = some l)

include hl

theorem remove_of_target?_eq : t.remove p =
    match t.entryAt? l with
    | none => .error (.errno Errno.noEntry)
    | some e =>
      match (t.barsAt l).removal with
      | some n => .error (.errno n)
      | none => if e = .folder then .error (.errno Errno.isFolder) else .ok (t.erase l) := by
  unfold target? at hl
  split at hl
  · rename_i at_ hp
    split at hl
    · cases hl
    · rename_i hs
      simp only [Bool.or_eq_true, decide_eq_true_eq, not_or, Bool.not_eq_true] at hs
      obtain rfl := Option.some.inj hl
      unfold remove
      cases he : t.entryAt? at_.location with
      | none => simp [bind, Except.bind, hp, hs, he]
      | some e => cases hb : (t.barsAt at_.location).removal <;>
          simp [bind, Except.bind, hp, hs, he, hb]
  · cases hl

/-- Where a path is about the location of a file or a link, that can be removed unless it is barred. -/
theorem remove_of_target? {e : Entry} (he : t.entryAt? l = some e) (hf : e ≠ .folder)
    (open_ : (t.barsAt l).removal = none) : t.remove p = .ok (t.erase l) := by
  simp [remove_of_target?_eq hl, he, hf, open_]

/-- Where a path is about the location of no entry, there is nothing to remove. -/
theorem remove_of_nothing (he : t.entryAt? l = none) :
    t.remove p = .error (.errno Errno.noEntry) := by
  simp [remove_of_target?_eq hl, he]

end

/-! ## Reading -/

theorem locate_eq_ok {t : FileTree} {p : Path} {l : Location} :
    t.locate p = .ok l ↔
      screen p = .ok () ∧ ∃ left, Walks t linkLimit (t.start p) (Pieces.split Path.slash p) l left := by
  simp only [← walk_eq_ok_iff]
  unfold locate
  cases screen p with
  | error cause => simp [bind, Except.bind]
  | ok =>
    cases t.walk linkLimit (t.start p) (Pieces.split Path.slash p) with
    | error n => simp [bind, Except.bind]
    | ok found =>
      obtain ⟨m, left⟩ := found
      simp [bind, Except.bind]

theorem read_eq_ok {t : FileTree} {p : Path} {contents : Bytes} :
    t.read p = .ok contents ↔
      ∃ l mode, t.locate p = .ok l ∧ t.entryAt? l = some (.file contents mode) := by
  unfold read
  cases t.locate p with
  | error cause => simp [bind, Except.bind]
  | ok l =>
    cases he : t.entryAt? l with
    | none => simp [bind, Except.bind, he]
    | some e => cases e <;> simp [bind, Except.bind, he]

/-- A file that a path would be written at is found at the path. -/
theorem read_of_aim? {t : FileTree} {p : Path} {l : Location} {contents : Bytes} {m : Mode}
    (ha : t.aim? p = some l) (he : t.entryAt? l = some (.file contents m)) :
    t.read p = .ok contents := by
  obtain ⟨at_, hp, settles⟩ := aim?_eq_some_iff.mp ha
  obtain ⟨hscreen, hp⟩ := place_eq_some_iff.mp hp
  obtain ⟨before, hlast, hw, hf, hdot, hup⟩ := placeFrom_eq_some_iff.mp hp
  obtain ⟨left, last⟩ := settles.walks he hf (ne_nil_of_splitLast hlast) hdot hup
  have unslashed : at_.slashed = false := by
    cases settles <;> assumption
  rw [unslashed] at hlast
  refine read_eq_ok.mpr ⟨l, m, locate_eq_ok.mpr ⟨hscreen, left, ?_⟩, he⟩
  rw [split_of_splitLast hlast]
  exact hw.append last

def HasFile (t : FileTree) (p : Path) : Prop := ∃ contents, t.read p = .ok contents

/-- Where a file is found at a path that can be about one, its name is that of a file or a link. -/
theorem standing_of_locate {t : FileTree} {p : Path} {before : List Bytes} {name : Bytes}
    (hn : NamesFile p before name) {m : Location} (hm : t.locate p = .ok m) :
    ∃ l e, t.target? p = some l ∧ t.entryAt? l = some e ∧
      ((∀ target, e ≠ .link target) → m = l) := by
  obtain ⟨-, left, walks⟩ := locate_eq_ok.mp hm
  rw [split_of_splitLast hn.last] at walks
  obtain ⟨folder, k, hw, last⟩ := walks.of_append
  have leads : ∀ {lead : Lead}, t.child folder name = .ok lead →
      t.target? p = some (folder ++ [name]) ∧
        leadBy (folder ++ [name]) (t.entryAt? (folder ++ [name])) = some lead := by
    intro lead child
    obtain ⟨hf, _, entry⟩ :=
      (child_eq_ok_iff (ne_nil_of_splitLast hn.last) hn.notDot hn.notUp).mp child
    exact ⟨target?_eq_some_iff.mpr ⟨before, name, folder, k, hn, hw, hf, rfl⟩, entry⟩
  cases last with
  | on child rest =>
    obtain ⟨target, entry⟩ := leads child
    cases rest
    cases he : t.entryAt? (folder ++ [name]) with
    | none => simp [he, leadBy] at entry
    | some e =>
      refine ⟨_, e, target, he, fun _ => ?_⟩
      cases e <;> simp_all [leadBy]
  | follow child rest =>
    obtain ⟨target, entry⟩ := leads child
    cases he : t.entryAt? (folder ++ [name]) with
    | none => simp [he, leadBy] at entry
    | some e =>
      refine ⟨_, e, target, he, fun never => ?_⟩
      cases e with
      | link q => exact absurd rfl (never q)
      | folder => simp [he, leadBy] at entry
      | file contents mode => simp [he, leadBy] at entry

theorem standing_of_hasFile {t : FileTree} {p : Path} {before : List Bytes} {name : Bytes}
    (hn : NamesFile p before name) (h : t.HasFile p) :
    ∃ l e, t.target? p = some l ∧ t.entryAt? l = some e ∧ e ≠ .folder := by
  obtain ⟨contents, h⟩ := h
  obtain ⟨m, mode, hm, file⟩ := read_eq_ok.mp h
  obtain ⟨l, e, target, entry, same⟩ := standing_of_locate hn hm
  refine ⟨l, e, target, entry, ?_⟩
  rintro rfl
  rw [same nofun, entry] at file
  cases file

/-- Taking an entry away puts no file anywhere. -/
theorem hasFile_of_erase {t : FileTree} {l : Location} (hl : l ≠ []) {p : Path}
    (h : (t.erase l).HasFile p) : t.HasFile p := by
  obtain ⟨contents, h⟩ := h
  obtain ⟨m, mode, hm, he⟩ := read_eq_ok.mp h
  obtain ⟨screened, left, walks⟩ := locate_eq_ok.mp hm
  refine ⟨contents, read_eq_ok.mpr ⟨m, mode, locate_eq_ok.mpr ⟨screened, left, walks.of_erase hl⟩, ?_⟩⟩
  rw [entryAt?_erase hl] at he
  split at he
  · cases he
  · exact he

/-! ## Attempts to remove -/

def discard (t : FileTree) (p : Path) : FileTree :=
  match t.remove p with
  | .ok u => u
  | .error _ => t

theorem discard_of_remove {t u : FileTree} {p : Path} (h : t.remove p = .ok u) : t.discard p = u := by
  simp [discard, h]

theorem discard_cases (t : FileTree) (p : Path) :
    t.discard p = t ∨ ∃ l e, t.target? p = some l ∧ t.entryAt? l = some e ∧ e ≠ .folder ∧
      t.discard p = t.erase l := by
  cases h : t.remove p with
  | error cause => exact .inl (by simp [discard, h])
  | ok u =>
    obtain ⟨l, e, hl, he, hf, -, rfl⟩ := remove_eq_ok h
    exact .inr ⟨l, e, hl, he, hf, discard_of_remove h⟩

theorem discard_ground (t : FileTree) (p : Path) :
    (t.discard p).home = t.home ∧ (t.discard p).bars = t.bars := by
  obtain h | ⟨l, _, _, _, _, h⟩ := t.discard_cases p
  · rw [h]
    exact ⟨rfl, rfl⟩
  · rw [h]
    exact ⟨rfl, rfl⟩

/-- If no link is at the path, an attempt to remove what is there leaves the ground as it is. -/
theorem sameGround_discard {t : FileTree} {p : Path}
    (notLink : ∀ l, t.target? p = some l → ∀ target, t.entryAt? l ≠ some (.link target)) :
    SameGround t (t.discard p) := by
  obtain h | ⟨l, e, hl, he, hf, h⟩ := t.discard_cases p
  · rw [h]
    exact .refl t
  · rw [h]
    exact sameGround_erase (ne_nil_of_target? hl) ⟨by simp [he, hf], notLink l hl⟩

/-- An attempt to remove a file changes no entry but the one that the path is about. -/
theorem entryAt?_discard {t : FileTree} {p : Path} {m : Location} (hm : t.target? p ≠ some m) :
    (t.discard p).entryAt? m = t.entryAt? m := by
  obtain h | ⟨l, _, hl, _, _, h⟩ := t.discard_cases p
  · rw [h]
  · have hml : m ≠ l := fun he => hm (he ▸ hl)
    rw [h, entryAt?_erase (ne_nil_of_target? hl), if_neg hml]

/-- What attempts to remove something do to an entry is to take it away. -/
theorem entryAt?_discard_cases (t : FileTree) (p : Path) (m : Location) :
    (t.discard p).entryAt? m = t.entryAt? m ∨ (t.discard p).entryAt? m = none := by
  obtain h | ⟨l, _, hl, _, _, h⟩ := t.discard_cases p
  · rw [h]
    exact .inl rfl
  · rw [h, entryAt?_erase (ne_nil_of_target? hl)]
    split
    · exact .inr rfl
    · exact .inl rfl

/-- A path that is about a location after an attempt to remove something was about it before. -/
theorem target?_of_discard {t : FileTree} {p q : Path} {l : Location}
    (h : (t.discard q).target? p = some l) : t.target? p = some l := by
  obtain hd | ⟨m, _, hm, _, _, hd⟩ := t.discard_cases q
  · rwa [hd] at h
  · exact target?_of_erase (ne_nil_of_target? hm) (hd ▸ h)

/-- Removing a file cuts no path off, for no path goes on from a file. -/
theorem target?_discard_of_hasFile {t : FileTree} {p q : Path} {l : Location} (file : t.HasFile p)
    (h : t.target? q = some l) : (t.discard p).target? q = some l := by
  obtain same | ⟨k, e, hk, he, hf, erased⟩ := t.discard_cases p
  · rwa [same]
  · obtain ⟨contents, hread⟩ := file
    obtain ⟨m, mode, hm, hfile⟩ := read_eq_ok.mp hread
    obtain ⟨before, name, folder, links, hn, hw, -, rfl⟩ := target?_eq_some_iff.mp hk
    have standing : t.entryAt? (folder ++ [name]) ≠ some .folder := fun hs =>
      hf (Option.some.inj (he.symm.trans hs))
    obtain ⟨-, left, walks⟩ := locate_eq_ok.mp hm
    rw [split_of_splitLast hn.last] at walks
    obtain ⟨folder', links', hw', last⟩ := walks.of_append
    obtain ⟨rfl, rfl⟩ := hw.unique hw'
    obtain ⟨before', name', parent, left', hn', through, hparent, rfl⟩ := target?_eq_some_iff.mp h
    rw [erased]
    refine target?_eq_some_iff.mpr
      ⟨before', name', parent, left', hn', through.erase hparent last hfile standing, ?_, rfl⟩
    have other : parent ≠ folder ++ [name] := fun same => standing (same ▸ hparent)
    rw [entryAt?_erase (by simp), if_neg other, hparent]

/-- An attempt to remove something puts no file at any path. -/
theorem hasFile_of_discard {t : FileTree} {p q : Path} (h : (t.discard q).HasFile p) :
    t.HasFile p := by
  obtain hd | ⟨m, _, hm, _, _, hd⟩ := t.discard_cases q
  · rwa [hd] at h
  · exact hasFile_of_erase (ne_nil_of_target? hm) (hd ▸ h)

/-- Whether the system refuses to remove what is at a path. -/
def Refuses (t : FileTree) (p : Path) : Prop :=
  ∃ l, t.target? p = some l ∧ (t.barsAt l).removal ≠ none

theorem SameGround.refuses {t u : FileTree} (s : SameGround t u) {p : Path} :
    u.Refuses p ↔ t.Refuses p := by
  simp only [Refuses, s.target?, s.barsAt]

theorem refuses_of_discard {t : FileTree} {p q : Path} (h : (t.discard q).Refuses p) : t.Refuses p := by
  obtain ⟨l, hl, barred⟩ := h
  unfold barsAt at barred
  rw [(t.discard_ground q).2] at barred
  exact ⟨l, target?_of_discard hl, barred⟩

/-- After an attempt to remove a file, one is at the path only if the system refused. -/
theorem refuses_of_hasFile_discard {t : FileTree} {p : Path} {before : List Bytes} {name : Bytes}
    (hn : NamesFile p before name) (h : (t.discard p).HasFile p) : t.Refuses p := by
  obtain ⟨l, e, hl, he, hf⟩ := standing_of_hasFile hn (hasFile_of_discard h)
  refine ⟨l, hl, fun unbarred => ?_⟩
  have erased := discard_of_remove (remove_of_target? hl he hf unbarred)
  obtain ⟨m, d, hm, hd, _⟩ := standing_of_hasFile hn h
  obtain rfl : m = l := Option.some.inj ((target?_of_discard hm).symm.trans hl)
  rw [erased, entryAt?_erase (ne_nil_of_target? hl), if_pos rfl] at hd
  cases hd

/-! ## Trees without bars -/

section

variable {t : FileTree} (unbarred : t.bars = [])

include unbarred

theorem barsAt_of_unbarred (l : Location) : t.barsAt l = {} := by
  rw [barsAt, unbarred]
  rfl

theorem whole_of_unbarred (p : Path) (contents : Bytes) : t.Whole p contents := by
  intro l _ _
  rw [barsAt_of_unbarred unbarred]
  rfl

theorem not_refuses_of_unbarred (p : Path) : ¬ t.Refuses p := by
  rintro ⟨l, -, barred⟩
  exact barred (by rw [barsAt_of_unbarred unbarred])

end

/-! ## What lasts -/

/-- What is so of the files remains so when something is written or removed. -/
structure Lasts (safe : FileTree → Prop) : Prop where
  write : ∀ t p contents, safe t → safe (left (t.write p contents))
  discard : ∀ t p, safe t → safe (t.discard p)

/-! ## Places of one name -/

/-- Whether nothing but a file of this one name can be at a location. -/
structure Free (t : FileTree) (l : Location) : Prop where
  notLink : ∀ target, t.entryAt? l ≠ some (.link target)
  single : ∀ m, t.SameFile l m → m = l

/-- Whether the location that a path is about is free. -/
def IsFree (t : FileTree) (p : Path) : Prop := ∀ l, t.target? p = some l → t.Free l

/-- Whether an entry is neither a link nor one of several names of a file. -/
def isSingle : Entry → Bool
  | .folder => true
  | .file _ mode => mode.serial.isNone
  | .link _ => false

/-- In a tree without links and without further names every location is free. -/
theorem free_of_all {t : FileTree} (single : t.entries.all (fun e => isSingle e.2) = true)
    (l : Location) : t.Free l := by
  have entries : ∀ {m e}, t.entryAt? m = some e → isSingle e = true := by
    intro m e he
    unfold entryAt? at he
    split at he
    · obtain rfl := Option.some.inj he
      rfl
    · obtain ⟨before, after, hm⟩ := List.lookup_eq_some_iff.mp he
      exact List.all_eq_true.mp single (m, e) (by simp [hm])
  constructor
  · intro target he
    cases entries he
  · rintro m (rfl | ⟨serial, hl, -⟩)
    · rfl
    · obtain ⟨contents, mode, he⟩ := file_of_serialAt? hl
      have none := entries he
      rw [serialAt?, modeAt_of_file he] at hl
      simp [isSingle, hl] at none

/-- A location stays free while no link and no name comes. -/
theorem Free.mono {t u : FileTree} {l : Location} (free : t.Free l)
    (links : ∀ target, u.entryAt? l = some (.link target) → t.entryAt? l = some (.link target))
    (serials : ∀ m serial, u.serialAt? m = some serial → t.serialAt? m = some serial) : u.Free l where
  notLink := fun target h => free.notLink target (links target h)
  single := fun m same => free.single m <| same.imp id fun ⟨serial, hl, hm⟩ =>
    ⟨serial, serials l serial hl, serials m serial hm⟩

/-- No name comes by writing. -/
theorem serialAt?_of_left_write {t : FileTree} {p : Path} {contents : Bytes} {m : Location}
    {serial : Nat} (h : (left (t.write p contents)).serialAt? m = some serial) :
    t.serialAt? m = some serial := t.serialAt?_left_write p contents m ▸ h

/-- No name comes by removing. -/
theorem serialAt?_of_discard {t : FileTree} {p : Path} {m : Location} {serial : Nat}
    (h : (t.discard p).serialAt? m = some serial) : t.serialAt? m = some serial := by
  obtain same | none := t.entryAt?_discard_cases p m
  · exact serialAt?_of_entryAt? same ▸ h
  · obtain ⟨_, _, he⟩ := file_of_serialAt? h
    rw [none] at he
    cases he

/-- So the further names are no more than they were. -/
theorem lasts_serials (t : FileTree) :
    Lasts fun u => ∀ m serial, u.serialAt? m = some serial → t.serialAt? m = some serial where
  write := fun _ _ _ serials m serial hm => serials m serial (serialAt?_of_left_write hm)
  discard := fun _ _ serials m serial hm => serials m serial (serialAt?_of_discard hm)

theorem link_of_discard {t : FileTree} {p : Path} {m : Location} {target : Path}
    (h : (t.discard p).entryAt? m = some (.link target)) : t.entryAt? m = some (.link target) := by
  obtain same | none := t.entryAt?_discard_cases p m
  · exact same ▸ h
  · rw [none] at h
    cases h

namespace IsFree

variable {t : FileTree} {p : Path}

/-- A path stays free on the same ground, while no name comes. -/
theorem mono {u : FileTree} (free : t.IsFree p) (s : SameGround t u)
    (serials : ∀ m serial, u.serialAt? m = some serial → t.serialAt? m = some serial) :
    u.IsFree p := fun l hl =>
  (free l (s.target? p ▸ hl)).mono (fun target => (s.links l target).mp) serials

theorem left_write (free : t.IsFree p) (q : Path) (contents : Bytes) :
    (left (t.write q contents)).IsFree p :=
  free.mono (t.sameGround_left_write q contents) fun _ _ => serialAt?_of_left_write

theorem discard (free : t.IsFree p) (q : Path) : (t.discard q).IsFree p := fun l hl =>
  (free l (target?_of_discard hl)).mono (fun _ => link_of_discard) fun _ _ => serialAt?_of_discard

theorem notLink (free : t.IsFree p) (l : Location) (hl : t.target? p = some l) (target : Path) :
    t.entryAt? l ≠ some (.link target) := (free l hl).notLink target

/-- A file is written at the place of its name. -/
theorem aim?_iff (free : t.IsFree p) {l : Location} :
    t.aim? p = some l ↔ t.target? p = some l ∧ t.entryAt? l ≠ some .folder :=
  aim?_of_notLink free.notLink

/-- Writing to the path changes at most what is at that one location. -/
theorem reaches_iff (free : t.IsFree p) {m : Location} :
    t.Reaches p m ↔ t.target? p = some m ∧ t.entryAt? m ≠ some .folder := by
  constructor
  · rintro ⟨l, ha, same⟩
    obtain ⟨target, notFolder⟩ := free.aim?_iff.mp ha
    obtain rfl := (free l target).single m same
    exact ⟨target, notFolder⟩
  · intro h
    exact ⟨m, free.aim?_iff.mpr h, .inl rfl⟩

end IsFree

end HostAccess.FileTree
