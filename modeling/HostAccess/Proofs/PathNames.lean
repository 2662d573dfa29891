import HostAccess.Path
import HostAccess.Proofs.Lines
import HostAccess.Proofs.Utf8

/-!
# What the names of a path tell

Two paths with the same names differ in slashes and dots alone: every other byte of a path is in one
of its names, in order. So a path that has the names of a text is a text, and blanks at its ends are
seen in its names.
-/
namespace HostAccess.Utf8

/-- Whether bytes are those of a text. -/
def IsText (b : Bytes) : Prop := ∃ s, b = encode s

theorem lossy_encode (s : String) : lossy (encode s) = s := by
  simp [lossy, encode, parts_encode, Part.shown, Function.comp_def]

theorem encode_ofList (cs : List Char) :
    encode (String.ofList cs) = cs.flatMap String.utf8EncodeChar := by
  simp [encode]

/-- An ASCII byte that is not that of a character is in no other character's bytes. -/
theorem ascii_not_mem {b : UInt8} (hb : b.toNat < 0x80) {c : Char} (hc : c.toNat ≠ b.toNat) :
    b ∉ String.utf8EncodeChar c := by
  intro h
  by_cases hlow : c.toNat < 0x80
  · rw [encodeChar_ascii hlow, List.mem_singleton] at h
    rw [h, toNat_ofNat (by omega)] at hc
    exact hc rfl
  · have hhigh := UInt8.le_iff_toNat_le.mp (high_of_mem_encodeChar (Nat.not_lt.mp hlow) h)
    simp at hhigh
    omega

/-- Whether a text holds an ASCII character can be told from its bytes. -/
theorem ascii_mem_encode {c : Char} (hc : c.toNat < 0x80) {s : String} :
    UInt8.ofNat c.toNat ∈ encode s ↔ c ∈ s.toList := by
  have hbyte : (UInt8.ofNat c.toNat).toNat = c.toNat := toNat_ofNat (by omega)
  rw [show encode s = s.toList.flatMap String.utf8EncodeChar from rfl, List.mem_flatMap]
  constructor
  · rintro ⟨d, hd, hb⟩
    by_cases hdc : d.toNat = (UInt8.ofNat c.toNat).toNat
    · have hsame : d = c := by rw [← Char.ofNat_toNat d, hdc, hbyte, Char.ofNat_toNat]
      exact hsame ▸ hd
    · exact absurd hb (ascii_not_mem (by omega) hdc)
  · exact fun hmem => ⟨c, hmem, by simp [encodeChar_ascii hc]⟩

end HostAccess.Utf8

namespace HostAccess.Path

/-- Whether two paths are equal name by name: how many slashes part the names, whether slashes follow
them, and `.` among them make no difference. -/
structure Same (p q : Path) : Prop where
  root : p.isAbsolute = q.isAbsolute
  names : p.names = q.names

/-- Whether a byte of a path is in one of its names wherever it stands. -/
def isSolid (b : UInt8) : Bool := b != slash && b != 0x2E

theorem filter_join (pieces : List Bytes) :
    (Pieces.join slash pieces).filter isSolid = pieces.flatten.filter isSolid := by
  have hslash : isSolid slash = false := by decide
  induction pieces with
  | nil => rfl
  | cons piece rest ih =>
    cases rest with
    | nil => simp [Pieces.join]
    | cons next more => simp [Pieces.join, hslash, ih]

theorem filter_names_rest (pieces : List Bytes) :
    (pieces.filter fun n => !n.isEmpty && n != dot).flatten.filter isSolid =
      pieces.flatten.filter isSolid := by
  induction pieces with
  | nil => rfl
  | cons piece rest ih =>
    by_cases hkept : (!piece.isEmpty && piece != dot) = true
    · rw [List.filter_cons_of_pos (by exact hkept)]
      simp [ih]
    · rw [List.filter_cons_of_neg (by exact hkept), ih]
      have hnothing : piece.filter isSolid = [] := by
        by_cases hempty : piece = []
        · simp [hempty]
        · have hdot : piece = dot := by simpa [hempty] using hkept
          rw [hdot]
          decide
      simp [hnothing]

/-- The bytes of a path that are neither slashes nor dots are those of its names. -/
theorem filter_names (p : Path) : p.names.flatten.filter isSolid = p.filter isSolid := by
  have hjoin := filter_join (Pieces.split slash p)
  rw [Pieces.join_split] at hjoin
  rw [hjoin]
  unfold names
  cases Pieces.split slash p with
  | nil => rfl
  | cons first rest =>
    simp only [List.flatten_append, List.filter_append, filter_names_rest, List.flatten_cons]
    cases hempty : first.isEmpty with
    | true => simp [List.isEmpty_iff.mp hempty]
    | false => simp

theorem filter_eq_of_names {p q : Path} (h : p.names = q.names) :
    p.filter isSolid = q.filter isSolid := by
  rw [← filter_names p, ← filter_names q, h]

/-! ## Paths that are texts -/

theorem slash_mem_encodeChar {c : Char} : slash ∈ String.utf8EncodeChar c ↔ c = '/' := by
  constructor
  · intro h
    by_contra other
    refine Utf8.ascii_not_mem (by decide) (fun hc => other ?_) h
    rw [← Char.ofNat_toNat c, hc]
    rfl
  · rintro rfl
    decide

/-- A text is split at slashes into texts. -/
theorem split_encode (cs : List Char) :
    Pieces.split slash (cs.flatMap String.utf8EncodeChar) =
      (Pieces.split '/' cs).map (·.flatMap String.utf8EncodeChar) := by
  induction cs with
  | nil => rfl
  | cons c rest ih =>
    by_cases hc : c = '/'
    · have hbyte : String.utf8EncodeChar '/' = [slash] := by decide
      have hsplit : Pieces.split '/' ('/' :: rest) = [] :: Pieces.split '/' rest :=
        Pieces.split_append List.not_mem_nil rest
      rw [hc, List.flatMap_cons, hbyte, hsplit, List.map_cons, ← ih]
      exact Pieces.split_append List.not_mem_nil _
    · have hnot : slash ∉ String.utf8EncodeChar c := mt slash_mem_encodeChar.mp hc
      -- Bytes that are no slashes go into the piece that the rest begins with.
      have hgrow : ∀ bs : Bytes, slash ∉ bs → ∀ ys piece pieces,
          Pieces.split slash ys = piece :: pieces →
            Pieces.split slash (bs ++ ys) = (bs ++ piece) :: pieces := by
        intro bs hbs ys piece pieces hys
        induction bs with
        | nil => exact hys
        | cons b more ihb =>
          simp only [List.mem_cons, not_or] at hbs
          rw [List.cons_append, Pieces.split, ihb hbs.2]
          simp [Ne.symm hbs.1]
      rw [Pieces.split]
      cases hrest : Pieces.split '/' rest with
      | nil => exact absurd hrest (Pieces.split_ne_nil '/' rest)
      | cons piece pieces =>
        rw [hrest, List.map_cons] at ih
        rw [List.flatMap_cons, hgrow _ hnot _ _ _ ih]
        simp [hc]

theorem isText_join {pieces : List Bytes} (h : ∀ piece ∈ pieces, Utf8.IsText piece) :
    Utf8.IsText (Pieces.join slash pieces) := by
  induction pieces with
  | nil => exact ⟨"", rfl⟩
  | cons piece rest ih =>
    obtain ⟨s, hs⟩ := h piece List.mem_cons_self
    cases rest with
    | nil => exact ⟨s, hs⟩
    | cons next more =>
      obtain ⟨t, ht⟩ := ih fun m hm => h m (List.mem_cons_of_mem piece hm)
      have hbyte : Utf8.encode "/" = [slash] := by decide
      refine ⟨s ++ ("/" ++ t), ?_⟩
      rw [Utf8.encode_append, Utf8.encode_append, ← hs, ← ht, hbyte]
      rfl

theorem isText_of_mem_names_ofString {s : String} {n : Bytes} (h : n ∈ (ofString s).names) :
    Utf8.IsText n := by
  have hmem : n ∈ Pieces.split slash (ofString s) := by
    unfold names at h
    cases hs : Pieces.split slash (ofString s) with
    | nil => simp [hs] at h
    | cons first rest =>
      rw [hs] at h
      simp only [List.mem_append, List.mem_filter] at h
      obtain h | ⟨h, -⟩ := h
      · split at h
        · cases h
        · exact List.mem_singleton.mp h ▸ List.mem_cons_self
      · exact List.mem_cons_of_mem _ h
  rw [show ofString s = s.toList.flatMap String.utf8EncodeChar from rfl, split_encode] at hmem
  obtain ⟨cs, -, rfl⟩ := List.mem_map.mp hmem
  exact ⟨String.ofList cs, (Utf8.encode_ofList cs).symm⟩

/-- A path whose names are texts is a text. -/
theorem isText_of_names {p : Path} (h : ∀ n ∈ p.names, Utf8.IsText n) : Utf8.IsText p := by
  rw [← Pieces.join_split slash p]
  refine isText_join fun piece hp => ?_
  -- What is no name of the path is empty or a dot.
  by_cases hempty : piece = []
  · exact ⟨"", hempty⟩
  by_cases hdot : piece = dot
  · exact ⟨".", hdot.trans (by decide)⟩
  refine h piece ?_
  unfold names
  cases hs : Pieces.split slash p with
  | nil => simp [hs] at hp
  | cons first rest =>
    rw [hs] at hp
    rcases List.mem_cons.mp hp with rfl | hp
    · simp [hempty]
    · simp [hp, hempty, hdot]

/-- A path that has the names of a text is a text itself, and differs from it in slashes and dots. -/
theorem text_of_names {p : Path} {s : String} (h : p.names = (ofString s).names) :
    ∃ t, p = ofString t ∧ (ofString t).filter isSolid = (ofString s).filter isSolid := by
  obtain ⟨t, rfl⟩ := isText_of_names fun n hn => isText_of_mem_names_ofString (h ▸ hn)
  exact ⟨t, rfl, filter_eq_of_names h⟩

/-- A text of which all but slashes and dots is known is known to hold a line feed or not. -/
theorem feed_mem_iff {s t : String}
    (h : (ofString s).filter isSolid = (ofString t).filter isSolid) :
    '\n' ∈ s.toList ↔ '\n' ∈ t.toList := by
  have tell : ∀ u : String, '\n' ∈ u.toList ↔ UInt8.ofNat '\n'.toNat ∈ (ofString u).filter isSolid := by
    intro u
    have hsolid : isSolid (UInt8.ofNat '\n'.toNat) = true := by decide
    rw [List.mem_filter, and_iff_left hsolid]
    exact (Utf8.ascii_mem_encode (by decide)).symm
  rw [tell, tell, h]

theorem solid_of_blank {c : Char} (h : Text.isBlank c = true) {b : UInt8}
    (hb : b ∈ String.utf8EncodeChar c) : isSolid b = true := by
  obtain ⟨r, hr, hlow, hhigh⟩ := Text.Ranges.mem_iff.mp h
  have hother : c.toNat ≠ slash.toNat ∧ c.toNat ≠ (0x2E : UInt8).toNat := by
    have hs : slash.toNat = 47 := by decide
    have hd : (0x2E : UInt8).toNat = 46 := by decide
    simp only [Text.whiteSpace, List.mem_cons, List.not_mem_nil, or_false] at hr
    rcases hr with rfl | rfl | rfl | rfl | rfl | rfl | rfl | rfl | rfl | rfl <;>
      simp only [hs, hd] at * <;> omega
  have hne : b ≠ slash ∧ b ≠ 0x2E := by
    constructor
    · rintro rfl
      exact Utf8.ascii_not_mem (by decide) hother.1 hb
    · rintro rfl
      exact Utf8.ascii_not_mem (by decide) hother.2 hb
  simp [isSolid, hne]

theorem filter_blanks {cs : List Char} (h : ∀ c ∈ cs, Text.isBlank c = true) :
    (cs.flatMap String.utf8EncodeChar).filter isSolid = cs.flatMap String.utf8EncodeChar := by
  refine List.filter_eq_self.mpr fun b hb => ?_
  obtain ⟨c, hc, hb⟩ := List.mem_flatMap.mp hb
  exact solid_of_blank (h c hc) hb

theorem length_le_encode (cs : List Char) :
    cs.length ≤ (cs.flatMap String.utf8EncodeChar).length := by
  induction cs with
  | nil => simp
  | cons c rest ih =>
    have hpos : 0 < (String.utf8EncodeChar c).length := by
      rw [String.length_utf8EncodeChar]
      exact c.utf8Size_pos
    simp only [List.flatMap_cons, List.length_append, List.length_cons]
    omega

/-- If trimming a text changes no byte but slashes and dots, then it changes nothing. -/
theorem trim_of_filter {t : String}
    (h : (ofString t).filter isSolid = (ofString (String.ofList (Text.trim t.toList))).filter isSolid) :
    Text.trim t.toList = t.toList := by
  obtain ⟨before, after, ht, hbefore, hafter⟩ := Text.trim_between t.toList
  have hlen := congrArg List.length h
  simp only [ofString, Utf8.encode_ofList] at hlen
  rw [Utf8.encode, congrArg (List.flatMap String.utf8EncodeChar) ht] at hlen
  simp only [List.flatMap_append, List.filter_append, filter_blanks hbefore, filter_blanks hafter,
    List.length_append] at hlen
  have hb := length_le_encode before
  have ha := length_le_encode after
  have nothing : before = [] ∧ after = [] :=
    ⟨List.eq_nil_of_length_eq_zero (by omega), List.eq_nil_of_length_eq_zero (by omega)⟩
  conv_rhs => rw [ht]
  simp [nothing]

/-! ## A name in a folder -/

section

variable {name : Bytes} (plain : slash ∉ name)

include plain

theorem isAbsolute_of_slash_not_mem : isAbsolute name = false := by
  cases name with
  | nil => rfl
  | cons b rest =>
    have hb : b ≠ slash := fun hb => plain (hb ▸ List.mem_cons_self)
    simp [isAbsolute, hb]

/-- A folder that is given with a slash at its end is not given another. -/
theorem join_of_slash_not_mem (dir : Path) : dir.join name =
    if dir = [] ∨ dir.getLast? = some slash then dir ++ name else dir ++ slash :: name := by
  simp [join, isAbsolute_of_slash_not_mem plain]

theorem isAbsolute_join (dir : Path) : (dir.join name).isAbsolute = dir.isAbsolute := by
  rw [join_of_slash_not_mem plain]
  cases dir with
  | nil =>
    rw [if_pos (.inl rfl)]
    exact isAbsolute_of_slash_not_mem plain
  | cons b rest => split <;> rfl

end

theorem ofString_ne_nil {s : String} (h : s ≠ "") : ofString s ≠ [] :=
  fun hnil => h (Utf8.eq_of_encode_eq (t := "") hnil)

end HostAccess.Path
