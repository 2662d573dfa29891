import HostAccess.Text.Utf8

/-!
# The bytes of characters

A character below 0x80 is written as the byte of its number, and every other character by bytes from
0x80 on. So a byte below 0x80 stands for a character wherever it occurs in the bytes of a text. The
bytes of a text are read as that text, and no other bytes are.
-/
namespace HostAccess.Utf8

theorem encodeChar_ascii {c : Char} (h : c.toNat < 0x80) :
    String.utf8EncodeChar c = [UInt8.ofNat c.toNat] := by
  unfold String.utf8EncodeChar
  exact if_pos (show c.val.toNat ≤ 0x7f by simp only [Char.toNat] at h; omega)

theorem le_ofNat {k n : Nat} (hk : k ≤ n) (hn : n < 0x100) : UInt8.ofNat k ≤ UInt8.ofNat n := by
  rw [UInt8.le_iff_toNat_le]
  simp only [UInt8.toNat_ofNat']
  omega

theorem high_of_mem_encodeChar {c : Char} (h : 0x80 ≤ c.toNat) {b : UInt8}
    (hb : b ∈ String.utf8EncodeChar c) : 0x80 ≤ b := by
  have hlow : ¬ c.val.toNat ≤ 0x7f := by simp only [Char.toNat] at h; omega
  unfold String.utf8EncodeChar at hb
  rw [if_neg hlow] at hb
  have hbyte : ∀ n : Nat, 0x80 ≤ n → n < 0x100 → b = UInt8.ofNat n → 0x80 ≤ b := by
    intro n hn hlt he
    rw [he]
    exact le_ofNat hn hlt
  split at hb
  · simp only [List.mem_cons, List.not_mem_nil, or_false] at hb
    rcases hb with hb | hb
    · exact hbyte _ (by omega) (by omega) hb
    · exact hbyte _ (by omega) (by omega) hb
  · split at hb
    · simp only [List.mem_cons, List.not_mem_nil, or_false] at hb
      rcases hb with hb | hb | hb
      · exact hbyte _ (by omega) (by omega) hb
      · exact hbyte _ (by omega) (by omega) hb
      · exact hbyte _ (by omega) (by omega) hb
    · simp only [List.mem_cons, List.not_mem_nil, or_false] at hb
      rcases hb with hb | hb | hb | hb
      · exact hbyte _ (by omega) (by omega) hb
      · exact hbyte _ (by omega) (by omega) hb
      · exact hbyte _ (by omega) (by omega) hb
      · exact hbyte _ (by omega) (by omega) hb

theorem hasNul_encode (s : String) : Bytes.hasNul (encode s) = true ↔ Char.ofNat 0 ∈ s.toList := by
  unfold Bytes.hasNul encode
  rw [List.contains_iff_mem, List.mem_flatMap]
  constructor
  · rintro ⟨c, hc, h⟩
    by_cases hlow : c.toNat < 0x80
    · rw [encodeChar_ascii hlow, List.mem_singleton] at h
      have hz := congrArg UInt8.toNat h
      simp only [UInt8.toNat_ofNat'] at hz
      have hc0 : c.toNat = 0 := by simp at hz; omega
      rw [← Char.ofNat_toNat c, hc0] at hc
      exact hc
    · exact absurd (high_of_mem_encodeChar (by omega) h) (by decide)
  · intro h
    exact ⟨_, h, by decide⟩

@[simp] theorem encode_append (s t : String) : encode (s ++ t) = encode s ++ encode t := by
  simp [encode]

/-! ## Reading back what was written -/

theorem toNat_ofNat {n : Nat} (h : n < 0x100) : (UInt8.ofNat n).toNat = n := by
  simp only [UInt8.toNat_ofNat']
  omega

/-- A byte in the range of what is expected completes a character that owes it alone. -/
theorem step_last {p : Pending} {b : UInt8} (range : p.low ≤ b ∧ b ≤ p.high) (owed : p.owed = 1) :
    step (some p) b = ([.char (Char.ofNat (p.value * 64 + (b.toNat - 0x80)))], none) := by
  simp [step, range, owed]

/-- A byte in the range of what is expected goes into the start of a character that owes more. -/
theorem step_more {p : Pending} {b : UInt8} (range : p.low ≤ b ∧ b ≤ p.high) (owed : 1 < p.owed) :
    step (some p) b =
      ([], some ⟨p.owed - 1, 0x80, 0xBF, p.value * 64 + (b.toNat - 0x80), p.bytes ++ [b]⟩) := by
  simp [step, range, Nat.not_le.mpr owed]

theorem first_one {b : UInt8} (h : b.toNat < 0x80) :
    first b = ([.char (Char.ofNat b.toNat)], none) := by
  have hb : b < 0x80 := UInt8.lt_iff_toNat_lt.mpr h
  simp [first, hb]

theorem not_lt {b k : UInt8} (h : k.toNat ≤ b.toNat) : ¬ b < k := fun hb =>
  absurd (UInt8.lt_iff_toNat_lt.mp hb) (Nat.not_lt.mpr h)

theorem ne_of_toNat {b k : UInt8} (h : b.toNat ≠ k.toNat) : b ≠ k := fun hb => h (congrArg _ hb)

theorem first_two {b : UInt8} (low : 0xC2 ≤ b.toNat) (high : b.toNat < 0xE0) :
    first b = ([], some ⟨1, 0x80, 0xBF, b.toNat - 0xC0, [b]⟩) := by
  have h1 : ¬ b < 0x80 := not_lt (show 0x80 ≤ b.toNat by omega)
  have h2 : ¬ b < 0xC2 := not_lt low
  have h3 : b < 0xE0 := UInt8.lt_iff_toNat_lt.mpr high
  simp [first, h1, h2, h3]

/-- The start of a character of three bytes, if the second byte `c` makes it neither too small nor a
surrogate. -/
theorem first_three {b c : UInt8} (low : 0xE0 ≤ b.toNat) (high : b.toNat < 0xF0)
    (next : 0x80 ≤ c.toNat ∧ c.toNat ≤ 0xBF) (small : b.toNat = 0xE0 → 0xA0 ≤ c.toNat)
    (surrogate : b.toNat = 0xED → c.toNat ≤ 0x9F) :
    ∃ p, first b = ([], some p) ∧ p.owed = 2 ∧ p.value = b.toNat - 0xE0 ∧
      (p.low ≤ c ∧ c ≤ p.high) := by
  have h1 : ¬ b < 0x80 := not_lt (show 0x80 ≤ b.toNat by omega)
  have h2 : ¬ b < 0xC2 := not_lt (show 0xC2 ≤ b.toNat by omega)
  have h3 : ¬ b < 0xE0 := not_lt low
  have h4 : b < 0xF0 := UInt8.lt_iff_toNat_lt.mpr high
  by_cases he : b = 0xE0
  · refine ⟨⟨2, 0xA0, 0xBF, 0, [b]⟩, by simp [first, he], rfl, by simp [he], ?_⟩
    exact ⟨UInt8.le_iff_toNat_le.mpr (small (by simp [he])), UInt8.le_iff_toNat_le.mpr next.2⟩
  · by_cases hd : b = 0xED
    · refine ⟨⟨2, 0x80, 0x9F, 0xD, [b]⟩, by simp [first, hd], rfl, by simp [hd], ?_⟩
      exact ⟨UInt8.le_iff_toNat_le.mpr next.1, UInt8.le_iff_toNat_le.mpr (surrogate (by simp [hd]))⟩
    · refine ⟨⟨2, 0x80, 0xBF, b.toNat - 0xE0, [b]⟩, by simp [first, h1, h2, h3, h4, he, hd], rfl,
        rfl, ?_⟩
      exact ⟨UInt8.le_iff_toNat_le.mpr next.1, UInt8.le_iff_toNat_le.mpr next.2⟩

/-- The start of a character of four bytes, if the second byte `c` makes it neither too small nor too
large. -/
theorem first_four {b c : UInt8} (low : 0xF0 ≤ b.toNat) (high : b.toNat ≤ 0xF4)
    (next : 0x80 ≤ c.toNat ∧ c.toNat ≤ 0xBF) (small : b.toNat = 0xF0 → 0x90 ≤ c.toNat)
    (large : b.toNat = 0xF4 → c.toNat ≤ 0x8F) :
    ∃ p, first b = ([], some p) ∧ p.owed = 3 ∧ p.value = b.toNat - 0xF0 ∧
      (p.low ≤ c ∧ c ≤ p.high) := by
  have h1 : ¬ b < 0x80 := not_lt (show 0x80 ≤ b.toNat by omega)
  have h2 : ¬ b < 0xC2 := not_lt (show 0xC2 ≤ b.toNat by omega)
  have h3 : ¬ b < 0xE0 := not_lt (show 0xE0 ≤ b.toNat by omega)
  have h4 : ¬ b < 0xF0 := not_lt low
  have h5 : b ≠ 0xE0 := ne_of_toNat (show b.toNat ≠ 0xE0 by omega)
  have h6 : b ≠ 0xED := ne_of_toNat (show b.toNat ≠ 0xED by omega)
  by_cases he : b = 0xF0
  · refine ⟨⟨3, 0x90, 0xBF, 0, [b]⟩, by simp [first, he], rfl, by simp [he], ?_⟩
    exact ⟨UInt8.le_iff_toNat_le.mpr (small (by simp [he])), UInt8.le_iff_toNat_le.mpr next.2⟩
  · by_cases hf : b = 0xF4
    · refine ⟨⟨3, 0x80, 0x8F, 4, [b]⟩, by simp [first, hf], rfl, by simp [hf], ?_⟩
      exact ⟨UInt8.le_iff_toNat_le.mpr next.1, UInt8.le_iff_toNat_le.mpr (large (by simp [hf]))⟩
    · have h7 : b < 0xF4 := by
        refine UInt8.lt_iff_toNat_lt.mpr (show b.toNat < 0xF4 from ?_)
        have : b.toNat ≠ 0xF4 := fun h => hf (UInt8.toNat_inj.mp h)
        omega
      refine ⟨⟨3, 0x80, 0xBF, b.toNat - 0xF0, [b]⟩, by simp [first, h1, h2, h3, h4, h5, h6, h7, he],
        rfl, rfl, ?_⟩
      exact ⟨UInt8.le_iff_toNat_le.mpr next.1, UInt8.le_iff_toNat_le.mpr next.2⟩

theorem partsFrom_start {b : UInt8} {p : Pending} (rest : Bytes) (h : first b = ([], some p)) :
    partsFrom none (b :: rest) = partsFrom (some p) rest := by
  simp [partsFrom, step, h]

theorem partsFrom_last {p : Pending} {b : UInt8} (rest : Bytes) (range : p.low ≤ b ∧ b ≤ p.high)
    (owed : p.owed = 1) :
    partsFrom (some p) (b :: rest) =
      .char (Char.ofNat (p.value * 64 + (b.toNat - 0x80))) :: partsFrom none rest := by
  simp [partsFrom, step_last range owed]

theorem partsFrom_more {p : Pending} {b : UInt8} (rest : Bytes) (range : p.low ≤ b ∧ b ≤ p.high)
    (owed : 1 < p.owed) :
    partsFrom (some p) (b :: rest) = partsFrom
      (some ⟨p.owed - 1, 0x80, 0xBF, p.value * 64 + (b.toNat - 0x80), p.bytes ++ [b]⟩) rest := by
  simp [partsFrom, step_more range owed]

/-- The byte that six bits go into after the first byte is in the range of what is expected. -/
theorem continuation (n : Nat) :
    (0x80 : UInt8) ≤ UInt8.ofNat (n % 0x40 + 0x80) ∧ UInt8.ofNat (n % 0x40 + 0x80) ≤ 0xBF :=
  ⟨le_ofNat (k := 0x80) (by omega) (by omega), le_ofNat (n := 0xBF) (by omega) (by omega)⟩

theorem partsFrom_encodeChar (c : Char) (rest : Bytes) :
    partsFrom none (String.utf8EncodeChar c ++ rest) = .char c :: partsFrom none rest := by
  have hc : c = Char.ofNat c.val.toNat := (Char.ofNat_toNat c).symm
  have valid : c.val.toNat < 0xD800 ∨ 0xDFFF < c.val.toNat ∧ c.val.toNat < 0x110000 := c.valid
  unfold String.utf8EncodeChar
  generalize c.val.toNat = v at hc valid
  subst hc
  dsimp only
  -- One case for each number of bytes; `omega` puts the bits of the bytes together again.
  split
  · rename_i one
    have hb := toNat_ofNat (n := v) (by omega)
    simp [partsFrom, step, first_one (b := UInt8.ofNat v) (by omega), hb]
  · rename_i one
    have last := continuation v
    have hlast := toNat_ofNat (n := v % 0x40 + 0x80) (by omega)
    split
    · rename_i two
      have hb := toNat_ofNat (n := v / 64 % 0x20 + 0xC0) (by omega)
      have hf := first_two (b := UInt8.ofNat (v / 64 % 0x20 + 0xC0)) (by omega) (by omega)
      rw [List.cons_append, List.cons_append, List.nil_append, partsFrom_start _ hf,
        partsFrom_last _ last rfl, hb, hlast]
      have whole : (v / 64 % 0x20 + 0xC0 - 0xC0) * 64 + (v % 0x40 + 0x80 - 0x80) = v := by omega
      rw [whole]
    · rename_i two
      have hmid := toNat_ofNat (n := v / 64 % 0x40 + 0x80) (by omega)
      split
      · rename_i three
        have hb := toNat_ofNat (n := v / 4096 % 0x10 + 0xE0) (by omega)
        obtain ⟨p, hf, owed, value, range⟩ :=
          first_three (b := UInt8.ofNat (v / 4096 % 0x10 + 0xE0))
            (c := UInt8.ofNat (v / 64 % 0x40 + 0x80)) (by omega) (by omega) (by omega) (by omega)
            (by omega)
        rw [List.cons_append, List.cons_append, List.cons_append, List.nil_append,
          partsFrom_start _ hf, partsFrom_more _ range (by omega),
          partsFrom_last _ last (by simp [owed]), hlast]
        simp only [value, hb, hmid]
        have whole : ((v / 4096 % 0x10 + 0xE0 - 0xE0) * 64 + (v / 64 % 0x40 + 0x80 - 0x80)) * 64 +
            (v % 0x40 + 0x80 - 0x80) = v := by omega
        rw [whole]
      · rename_i three
        have hmid' := toNat_ofNat (n := v / 4096 % 0x40 + 0x80) (by omega)
        have hb := toNat_ofNat (n := v / 262144 % 0x08 + 0xF0) (by omega)
        obtain ⟨p, hf, owed, value, range⟩ :=
          first_four (b := UInt8.ofNat (v / 262144 % 0x08 + 0xF0))
            (c := UInt8.ofNat (v / 4096 % 0x40 + 0x80)) (by omega) (by omega) (by omega) (by omega)
            (by omega)
        rw [List.cons_append, List.cons_append, List.cons_append, List.cons_append, List.nil_append,
          partsFrom_start _ hf, partsFrom_more _ range (by omega),
          partsFrom_more _ (continuation (v / 64)) (by simp [owed]),
          partsFrom_last _ last (by simp [owed]), hlast]
        simp only [value, hb, hmid, hmid']
        have whole : (((v / 262144 % 0x08 + 0xF0 - 0xF0) * 64 + (v / 4096 % 0x40 + 0x80 - 0x80)) * 64 +
            (v / 64 % 0x40 + 0x80 - 0x80)) * 64 + (v % 0x40 + 0x80 - 0x80) = v := by omega
        rw [whole]

theorem parts_encode (cs : List Char) :
    parts (cs.flatMap String.utf8EncodeChar) = cs.map .char := by
  unfold parts
  induction cs with
  | nil => rfl
  | cons c rest ih => rw [List.flatMap_cons, partsFrom_encodeChar, ih, List.map_cons]

theorem characters?_map (cs : List Char) : characters? (cs.map .char) = some cs := by
  induction cs with
  | nil => rfl
  | cons c rest ih => simp [characters?, ih]

/-- **A text is read back from its bytes.** -/
theorem decode?_encode (s : String) : decode? (encode s) = some s := by
  simp [decode?, encode, parts_encode, characters?_map]

theorem eq_of_encode_eq {s t : String} (same : encode s = encode t) : s = t := by
  have read := congrArg decode? same
  rwa [decode?_encode, decode?_encode, Option.some.injEq] at read

/-! ## Only texts are read -/

theorem ofNat_eq {n : Nat} {b : UInt8} (h : n = b.toNat) : UInt8.ofNat n = b := by
  rw [h, UInt8.ofNat_toNat]

/-- The number that the bits of further bytes go into. -/
def gather (value : Nat) (more : Bytes) : Nat :=
  more.foldl (fun v b => v * 64 + (b.toNat - 0x80)) value

/-- Whether the start of a character is completed by the bytes that it expects to the bytes of that
character. -/
structure Pending.Sound (p : Pending) : Prop where
  owes : 0 < p.owed
  completes : ∀ b more, p.low ≤ b ∧ b ≤ p.high → more.length + 1 = p.owed →
    (∀ c ∈ more, (0x80 : UInt8) ≤ c ∧ c ≤ 0xBF) →
    String.utf8EncodeChar (Char.ofNat (gather p.value (b :: more))) = p.bytes ++ b :: more

/-- The start of a character is as good with one byte more of those that it expects. -/
theorem Pending.Sound.step {p : Pending} (sound : p.Sound) {b : UInt8}
    (range : p.low ≤ b ∧ b ≤ p.high) (owed : 1 < p.owed) :
    Pending.Sound ⟨p.owed - 1, 0x80, 0xBF, p.value * 64 + (b.toNat - 0x80), p.bytes ++ [b]⟩ where
  owes := by simp only; omega
  completes c more hc length hmore := by
    have whole := sound.completes b (c :: more) range (by simp only [List.length_cons] at length ⊢; omega)
      (List.forall_mem_cons.mpr ⟨hc, hmore⟩)
    have hgather : gather p.value (b :: c :: more) =
        gather (p.value * 64 + (b.toNat - 0x80)) (c :: more) := by rw [gather, List.foldl_cons, gather]
    rw [hgather] at whole
    rw [whole, List.append_assoc, List.singleton_append]

theorem encodeChar_ofNat {v : Nat} (valid : v.isValidChar) :
    String.utf8EncodeChar (Char.ofNat v) =
      if v ≤ 127 then [UInt8.ofNat v]
      else if v ≤ 2047 then [UInt8.ofNat (v / 64 % 32 + 192), UInt8.ofNat (v % 64 + 128)]
      else if v ≤ 65535 then
        [UInt8.ofNat (v / 4096 % 16 + 224), UInt8.ofNat (v / 64 % 64 + 128), UInt8.ofNat (v % 64 + 128)]
      else [UInt8.ofNat (v / 262144 % 8 + 240), UInt8.ofNat (v / 4096 % 64 + 128),
        UInt8.ofNat (v / 64 % 64 + 128), UInt8.ofNat (v % 64 + 128)] := by
  have code : (Char.ofNat v).val.toNat = v := by
    unfold Char.ofNat
    rw [dif_pos valid]
    rfl
  unfold String.utf8EncodeChar
  simp only [code]

theorem sound_two {b low high : UInt8} {value : Nat} (bits : value = b.toNat - 0xC0)
    (first : 0xC2 ≤ b.toNat ∧ b.toNat < 0xE0)
    (range : 0x80 ≤ low.toNat ∧ high.toNat ≤ 0xBF) :
    Pending.Sound ⟨1, low, high, value, [b]⟩ where
  owes := Nat.one_pos
  completes c more hc length _ := by
    obtain rfl : more = [] := List.eq_nil_of_length_eq_zero (by simpa using length)
    have hlow := UInt8.le_iff_toNat_le.mp hc.1
    have hhigh := UInt8.le_iff_toNat_le.mp hc.2
    simp only [gather, List.foldl_cons, List.foldl_nil, bits] at hlow hhigh ⊢
    rw [encodeChar_ofNat (Or.inl (by omega)), if_neg (by omega), if_pos (by omega),
      ofNat_eq (b := b) (by omega), ofNat_eq (b := c) (by omega)]
    rfl

theorem sound_three {b low high : UInt8} {value : Nat} (bits : value = b.toNat - 0xE0)
    (first : 0xE0 ≤ b.toNat ∧ b.toNat < 0xF0)
    (range : 0x80 ≤ low.toNat ∧ high.toNat ≤ 0xBF) (small : b.toNat = 0xE0 → 0xA0 ≤ low.toNat)
    (surrogate : b.toNat = 0xED → high.toNat ≤ 0x9F) :
    Pending.Sound ⟨2, low, high, value, [b]⟩ where
  owes := Nat.two_pos
  completes c more hc length hmore := by
    obtain ⟨d, rfl⟩ := List.length_eq_one_iff.mp (by simpa using length)
    obtain ⟨hd, hd'⟩ := hmore d List.mem_cons_self
    have hlow := UInt8.le_iff_toNat_le.mp hc.1
    have hhigh := UInt8.le_iff_toNat_le.mp hc.2
    have hdlow : 0x80 ≤ d.toNat := UInt8.le_iff_toNat_le.mp hd
    have hdhigh : d.toNat ≤ 0xBF := UInt8.le_iff_toNat_le.mp hd'
    simp only [gather, List.foldl_cons, List.foldl_nil, bits] at hlow hhigh ⊢
    have valid : (((b.toNat - 0xE0) * 64 + (c.toNat - 0x80)) * 64 + (d.toNat - 0x80)).isValidChar := by
      unfold Nat.isValidChar
      omega
    rw [encodeChar_ofNat valid, if_neg (by omega), if_neg (by omega), if_pos (by omega),
      ofNat_eq (b := b) (by omega), ofNat_eq (b := c) (by omega), ofNat_eq (b := d) (by omega)]
    rfl

theorem sound_four {b low high : UInt8} {value : Nat} (bits : value = b.toNat - 0xF0)
    (first : 0xF0 ≤ b.toNat ∧ b.toNat ≤ 0xF4)
    (range : 0x80 ≤ low.toNat ∧ high.toNat ≤ 0xBF) (small : b.toNat = 0xF0 → 0x90 ≤ low.toNat)
    (large : b.toNat = 0xF4 → high.toNat ≤ 0x8F) :
    Pending.Sound ⟨3, low, high, value, [b]⟩ where
  owes := Nat.succ_pos 2
  completes c more hc length hmore := by
    obtain ⟨d, rest, rfl⟩ := List.exists_cons_of_length_eq_add_one (n := 1) (by simpa using length)
    obtain ⟨e, rfl⟩ := List.length_eq_one_iff.mp (by simpa using length)
    obtain ⟨hd, hd'⟩ := hmore d List.mem_cons_self
    obtain ⟨he, he'⟩ := hmore e (by simp)
    have hlow := UInt8.le_iff_toNat_le.mp hc.1
    have hhigh := UInt8.le_iff_toNat_le.mp hc.2
    have hdlow : 0x80 ≤ d.toNat := UInt8.le_iff_toNat_le.mp hd
    have hdhigh : d.toNat ≤ 0xBF := UInt8.le_iff_toNat_le.mp hd'
    have helow : 0x80 ≤ e.toNat := UInt8.le_iff_toNat_le.mp he
    have hehigh : e.toNat ≤ 0xBF := UInt8.le_iff_toNat_le.mp he'
    simp only [gather, List.foldl_cons, List.foldl_nil, bits] at hlow hhigh ⊢
    have valid : ((((b.toNat - 0xF0) * 64 + (c.toNat - 0x80)) * 64 + (d.toNat - 0x80)) * 64 +
        (e.toNat - 0x80)).isValidChar := by
      unfold Nat.isValidChar
      omega
    rw [encodeChar_ofNat valid, if_neg (by omega), if_neg (by omega), if_neg (by omega),
      ofNat_eq (b := b) (by omega), ofNat_eq (b := c) (by omega), ofNat_eq (b := d) (by omega),
      ofNat_eq (b := e) (by omega)]
    rfl

/-- The ways that a byte can be read between characters. -/
theorem first_cases (b : UInt8) :
    (b.toNat < 0x80 ∧ first b = ([.char (Char.ofNat b.toNat)], none)) ∨
      first b = ([.broken [b]], none) ∨
      ∃ p, first b = ([], some p) ∧ p.Sound ∧ p.bytes = [b] := by
  have above {k : UInt8} (h : ¬ b < k) : k.toNat ≤ b.toNat :=
    Nat.not_lt.mp fun hlt => h (UInt8.lt_iff_toNat_lt.mpr hlt)
  have below {k : UInt8} (h : b < k) : b.toNat < k.toNat := UInt8.lt_iff_toNat_lt.mp h
  have other {k : UInt8} (h : ¬ b = k) : b.toNat ≠ k.toNat := fun he => h (UInt8.toNat_inj.mp he)
  unfold first
  split
  · rename_i h
    exact .inl ⟨below h, rfl⟩
  split
  · exact .inr (.inl rfl)
  rename_i h2
  have c2 : 0xC2 ≤ b.toNat := above h2
  split
  · rename_i h
    exact .inr (.inr ⟨_, rfl, sound_two rfl ⟨c2, below h⟩ (by decide), rfl⟩)
  rename_i h3
  have e0 : 0xE0 ≤ b.toNat := above h3
  split
  · rename_i h
    subst h
    exact .inr (.inr
      ⟨_, rfl, sound_three (by decide) (by decide) (by decide) (by decide) (by decide), rfl⟩)
  rename_i h4
  have h4 : b.toNat ≠ 0xE0 := other h4
  split
  · rename_i h
    subst h
    exact .inr (.inr
      ⟨_, rfl, sound_three (by decide) (by decide) (by decide) (by decide) (by decide), rfl⟩)
  rename_i h5
  have h5 : b.toNat ≠ 0xED := other h5
  split
  · rename_i h
    exact .inr (.inr
      ⟨_, rfl, sound_three rfl ⟨e0, below h⟩ (by decide) (absurd · h4) (absurd · h5), rfl⟩)
  rename_i h6
  have f0 : 0xF0 ≤ b.toNat := above h6
  split
  · rename_i h
    subst h
    exact .inr (.inr
      ⟨_, rfl, sound_four (by decide) (by decide) (by decide) (by decide) (by decide), rfl⟩)
  rename_i h7
  have h7 : b.toNat ≠ 0xF0 := other h7
  split
  · rename_i h
    have f4 : b.toNat < 0xF4 := below h
    exact .inr (.inr ⟨_, rfl, sound_four rfl ⟨f0, Nat.le_of_lt f4⟩ (by decide) (absurd · h7)
      (absurd · (Nat.ne_of_lt f4)), rfl⟩)
  split
  · rename_i h
    subst h
    exact .inr (.inr
      ⟨_, rfl, sound_four (by decide) (by decide) (by decide) (by decide) (by decide), rfl⟩)
  · exact .inr (.inl rfl)

/-- The bytes in hand while a text is read. -/
def held (state : Option Pending) : Bytes := (state.map (·.bytes)).getD []

/-- Bytes of which nothing is broken are those of the characters that are read. -/
theorem encode_of_partsFrom (state : Option Pending) (sound : ∀ p ∈ state, p.Sound) {b : Bytes}
    {cs : List Char} (read : partsFrom state b = cs.map .char) :
    held state ++ b = cs.flatMap String.utf8EncodeChar := by
  induction b generalizing state cs with
  | nil =>
    cases state with
    | none =>
      obtain rfl : cs = [] := by simpa [partsFrom, eq_comm] using read
      rfl
    | some p => cases cs <;> simp [partsFrom] at read
  | cons b rest ih =>
    cases state with
    | none =>
      have hread : (first b).1 ++ partsFrom (first b).2 rest = cs.map .char := read
      obtain ⟨ascii, hb⟩ | hb | ⟨p, hb, hp, bytes⟩ := first_cases b
      · rw [hb] at hread
        cases cs with
        | nil => simp at hread
        | cons c more =>
          obtain ⟨hc, hmore⟩ := List.cons.inj hread
          obtain rfl := Part.char.inj hc
          have hcode : (Char.ofNat b.toNat).toNat = b.toNat := by
            unfold Char.ofNat
            rw [dif_pos (Or.inl (by omega))]
            rfl
          have hrest := ih none nofun hmore
          rw [List.flatMap_cons, ← hrest, encodeChar_ascii (by omega), hcode, UInt8.ofNat_toNat]
          rfl
      · rw [hb] at hread
        cases cs <;> simp at hread
      · rw [hb] at hread
        have hrest := ih (some p) (fun q hq => Option.some.inj hq ▸ hp) hread
        rw [← hrest]
        simp [held, bytes]
    | some p =>
      have hp := sound p rfl
      by_cases range : p.low ≤ b ∧ b ≤ p.high
      · by_cases owed : 1 < p.owed
        · rw [partsFrom_more rest range owed] at read
          have hrest := ih _ (fun q hq => Option.some.inj hq ▸ hp.step range owed) read
          rw [← hrest]
          simp [held]
        · have one : p.owed = 1 := Nat.le_antisymm (Nat.not_lt.mp owed) hp.owes
          rw [partsFrom_last rest range one] at read
          cases cs with
          | nil => simp at read
          | cons c more =>
            obtain ⟨hc, hmore⟩ := List.cons.inj read
            obtain rfl := Part.char.inj hc
            have whole := hp.completes b [] range (by simp [one]) nofun
            have hrest := ih none nofun hmore
            rw [List.flatMap_cons, ← hrest]
            simp only [gather, List.foldl_cons, List.foldl_nil] at whole
            rw [whole]
            simp [held]
      · have broken : partsFrom (some p) (b :: rest) =
            .broken p.bytes :: ((first b).1 ++ partsFrom (first b).2 rest) := by
          simp [partsFrom, step, range]
        rw [broken] at read
        cases cs <;> simp at read

theorem characters?_eq_some_iff {ps : List Part} {cs : List Char} :
    characters? ps = some cs ↔ ps = cs.map .char := by
  constructor
  · intro h
    induction ps generalizing cs with
    | nil =>
      obtain rfl : [] = cs := by simpa [characters?] using h
      rfl
    | cons p rest ih =>
      cases p with
      | broken bytes => cases h
      | char c =>
        obtain ⟨more, hmore, rfl⟩ := Option.map_eq_some_iff.mp h
        rw [ih hmore, List.map_cons]
  · rintro rfl
    exact characters?_map cs

/-- **Bytes are read as a text exactly if they are those of the text.** -/
theorem decode?_eq_some_iff {b : Bytes} {s : String} : decode? b = some s ↔ b = encode s := by
  constructor
  · intro h
    obtain ⟨cs, hcs, rfl⟩ := Option.map_eq_some_iff.mp h
    have whole := encode_of_partsFrom none nofun (characters?_eq_some_iff.mp hcs)
    simpa [held, encode] using whole
  · rintro rfl
    exact decode?_encode s

/-! ## Order -/

/-- Of two characters the smaller has the smaller bytes, whatever follows. -/
theorem encodeChar_lt {c d : Char} (h : c < d) (rest others : Bytes) :
    String.utf8EncodeChar c ++ rest < String.utf8EncodeChar d ++ others := by
  have small : c.val.toNat < d.val.toNat := h
  have valid : d.val.toNat < 0xD800 ∨ 0xDFFF < d.val.toNat ∧ d.val.toNat < 0x110000 := d.valid
  have upper (n : Nat) : n / 64 / 64 = n / 4096 ∧ n / 4096 / 64 = n / 262144 :=
    ⟨Nat.div_div_eq_div_mul n 64 64, Nat.div_div_eq_div_mul n 4096 64⟩
  unfold String.utf8EncodeChar
  generalize c.val.toNat = v at small
  generalize d.val.toNat = w at small valid
  obtain ⟨hv, hv'⟩ := upper v
  obtain ⟨hw, hw'⟩ := upper w
  dsimp only
  -- The first byte tells how many bytes there are; as many bytes compare as the bits in them do.
  repeat' split
  all_goals
    simp only [List.cons_append, List.nil_append, List.cons_lt_cons_iff, UInt8.lt_iff_toNat_lt,
      ← UInt8.toNat_inj, UInt8.toNat_ofNat']
    simp (disch := omega) only [Nat.mod_eq_of_lt]
    omega

theorem encodeChars_lt {cs ds : List Char} (h : cs < ds) :
    cs.flatMap String.utf8EncodeChar < ds.flatMap String.utf8EncodeChar := by
  induction h with
  | @nil d ds =>
    obtain ⟨b, bs, hd⟩ := List.exists_cons_of_ne_nil (String.utf8EncodeChar_ne_nil (c := d))
    rw [List.flatMap_cons, hd]
    exact List.nil_lt_cons b _
  | @rel c cs d ds smaller => exact encodeChar_lt smaller _ _
  | cons _ ih => exact List.append_left_lt ih

/-- **Texts in order have their bytes in order.** -/
theorem encode_lt {s t : String} (h : s < t) : encode s < encode t := encodeChars_lt h

end HostAccess.Utf8
