import HostAccess.Json.Reader
import HostAccess.Json.Writer
import HostAccess.Proofs.Utf8

/-!
# JSON texts are read back

A text that is written between quotes is read back as it was. Every character is written either by its
own bytes, by a short escape that stands for its byte, or by its number.
-/
namespace HostAccess.Json

abbrev bytes (cs : List Char) : Bytes := cs.flatMap String.utf8EncodeChar

def isNumbered (c : Char) : Bool :=
  c.toNat < 0x20 && !(c.toNat == 8 || c.toNat == 9 || c.toNat == 10 || c.toNat == 12 || c.toNat == 13)

def escaped (c : Char) : List Piece :=
  if isNumbered c then [.unit c.toNat] else (String.utf8EncodeChar c).map .byte

/-! ## Pieces -/

theorem pieces_byte {b : UInt8} (hq : b ≠ 0x22) (hs : b ≠ 0x5C) (hc : ¬ b < 0x20) (rest : Bytes) :
    pieces (b :: rest) = (pieces rest).map fun (more, rest) => (.byte b :: more, rest) := by
  rw [pieces, if_neg (by simp [hs, UInt8.not_lt.mp hc])]
  · exact fun h => hq h
  · exact fun _ _ _ _ _ h => absurd h hs
  · exact fun _ _ h => absurd h hs

theorem pieces_short {e byte : UInt8} (he : e ≠ 0x75) (h : shortEscape? e = some byte)
    (rest : Bytes) :
    pieces (0x5C :: e :: rest) = (pieces rest).map fun (more, rest) => (.byte byte :: more, rest) := by
  rw [pieces, h]
  · cases pieces rest <;> rfl
  · exact fun _ _ _ _ _ h => absurd h he

theorem pieces_unit {a b c d : UInt8} {n : Nat} (h : hexFour? a b c d = some n) (rest : Bytes) :
    pieces (0x5C :: 0x75 :: a :: b :: c :: d :: rest) =
      (pieces rest).map fun (more, rest) => (.unit n :: more, rest) := by
  rw [pieces, h]
  cases pieces rest <;> rfl

/-- Bytes that are neither quotes nor backslashes nor controls stand for themselves. -/
theorem pieces_plain {plain : Bytes} (h : ∀ b ∈ plain, b ≠ 0x22 ∧ b ≠ 0x5C ∧ ¬ b < 0x20)
    (rest : Bytes) :
    pieces (plain ++ rest) = (pieces rest).map fun (more, rest) => (plain.map .byte ++ more, rest) := by
  induction plain with
  | nil => simp
  | cons b bs ih =>
    obtain ⟨hq, hs, hc⟩ := h b List.mem_cons_self
    rw [List.cons_append, pieces_byte hq hs hc, ih fun x hx => h x (List.mem_cons_of_mem b hx)]
    cases pieces rest <;> rfl

theorem plain_of_mem {c : Char} (low : 0x20 ≤ c.toNat) (hq : c.toNat ≠ 0x22) (hs : c.toNat ≠ 0x5C)
    {b : UInt8} (hb : b ∈ String.utf8EncodeChar c) : b ≠ 0x22 ∧ b ≠ 0x5C ∧ ¬ b < 0x20 := by
  by_cases h : c.toNat < 0x80
  · rw [Utf8.encodeChar_ascii h, List.mem_singleton] at hb
    have hn : b.toNat = c.toNat := by rw [hb, Utf8.toNat_ofNat (by omega)]
    refine ⟨Utf8.ne_of_toNat ?_, Utf8.ne_of_toNat ?_, Utf8.not_lt ?_⟩
    · exact hn ▸ hq
    · exact hn ▸ hs
    · exact hn ▸ low
  · have high : 0x80 ≤ b.toNat :=
      UInt8.le_iff_toNat_le.mp (Utf8.high_of_mem_encodeChar (by omega) hb)
    refine ⟨Utf8.ne_of_toNat ?_, Utf8.ne_of_toNat ?_, Utf8.not_lt ?_⟩
    · exact show b.toNat ≠ 0x22 by omega
    · exact show b.toNat ≠ 0x5C by omega
    · exact show 0x20 ≤ b.toNat by omega

theorem hexFour?_control : ∀ n < 0x20,
    hexFour? 0x30 0x30 (UInt8.ofNat (hexDigit (n / 16)).toNat) (UInt8.ofNat (hexDigit n).toNat) =
      some n := by
  decide

theorem hexDigit_ascii (n : Nat) : (hexDigit n).toNat < 0x80 := by
  have h : ∀ k < 16, (Nat.digitChar k).toNat < 0x80 := by decide
  exact h (n % 16) (Nat.mod_lt n (by decide))

def isShort (c : Char) : Bool := [8, 9, 10, 12, 13, 0x22, 0x5C].contains c.toNat

theorem escape_numbered {c : Char} (low : c.toNat < 0x20) (short : isShort c = false) :
    escape c = ['\\', 'u', '0', '0', hexDigit (c.toNat / 16), hexDigit c.toNat] := by
  unfold escape
  split
  case h_8 => exact if_pos low
  all_goals rename_i h; simp [isShort, h] at short

theorem escape_plain {c : Char} (low : 0x20 ≤ c.toNat) (short : isShort c = false) :
    escape c = [c] := by
  unfold escape
  split
  case h_8 => exact if_neg (by omega)
  all_goals rename_i h; simp [isShort, h] at short

theorem pieces_escape_short {c : Char} {e byte : UInt8} (written : bytes (escape c) = [0x5C, e])
    (he : e ≠ 0x75) (stands : shortEscape? e = some byte) (read : escaped c = [.byte byte])
    (rest : Bytes) :
    pieces (bytes (escape c) ++ rest) =
      (pieces rest).map fun (more, rest) => (escaped c ++ more, rest) := by
  rw [written, read]
  exact pieces_short he stands rest

theorem pieces_escape (c : Char) (rest : Bytes) :
    pieces (bytes (escape c) ++ rest) =
      (pieces rest).map fun (more, rest) => (escaped c ++ more, rest) := by
  cases short : isShort c with
  | true =>
    have hc : c = Char.ofNat c.toNat := (Char.ofNat_toNat c).symm
    simp only [isShort, List.contains_iff_mem, List.mem_cons, List.not_mem_nil, or_false] at short
    rcases short with h | h | h | h | h | h | h <;> rw [h] at hc <;> subst hc
    · exact @pieces_escape_short _ 0x62 0x08 rfl (by decide) rfl rfl rest
    · exact @pieces_escape_short _ 0x74 0x09 rfl (by decide) rfl rfl rest
    · exact @pieces_escape_short _ 0x6E 0x0A rfl (by decide) rfl rfl rest
    · exact @pieces_escape_short _ 0x66 0x0C rfl (by decide) rfl rfl rest
    · exact @pieces_escape_short _ 0x72 0x0D rfl (by decide) rfl rfl rest
    · exact @pieces_escape_short _ 0x22 0x22 rfl (by decide) rfl rfl rest
    · exact @pieces_escape_short _ 0x5C 0x5C rfl (by decide) rfl rfl rest
  | false =>
    by_cases low : c.toNat < 0x20
    · have hn : isNumbered c = true := by
        simp [isShort] at short
        simp [isNumbered, low, short]
      have hb : bytes (escape c) = [0x5C, 0x75, 0x30, 0x30,
          UInt8.ofNat (hexDigit (c.toNat / 16)).toNat, UInt8.ofNat (hexDigit c.toNat).toNat] := by
        rw [escape_numbered low short]
        simp [bytes, Utf8.encodeChar_ascii (hexDigit_ascii _)]
        rfl
      rw [hb, escaped, if_pos hn]
      exact pieces_unit (hexFour?_control _ low) rest
    · have hn : isNumbered c = false := by simp [isNumbered, low]
      have hq : c.toNat ≠ 0x22 := fun h => by simp [isShort, h] at short
      have hs : c.toNat ≠ 0x5C := fun h => by simp [isShort, h] at short
      rw [escape_plain (by omega) short, escaped, if_neg (by simp [hn])]
      simp only [bytes, List.flatMap_cons, List.flatMap_nil, List.append_nil]
      exact pieces_plain (fun b hb => plain_of_mem (by omega) hq hs hb) rest

theorem assemble_bytes (bs : Bytes) (more : List Piece) :
    assemble (bs.map .byte ++ more) = (assemble more).map (bs ++ ·) := by
  induction bs with
  | nil => simp
  | cons b bs ih => simp [assemble, ih, Function.comp_def]

theorem assemble_unit {n : Nat} (h : n < 0x20) (more : List Piece) :
    assemble (.unit n :: more) = (assemble more).map (String.utf8EncodeChar (Char.ofNat n) ++ ·) := by
  have hl : isLow n = false := by simp [isLow]; omega
  have hh : isHigh n = false := by simp [isHigh]; omega
  cases more with
  | nil => simp [assemble, hl, hh]
  | cons p more => cases p <;> simp [assemble, hl, hh]

theorem assemble_escaped (c : Char) (more : List Piece) :
    assemble (escaped c ++ more) = (assemble more).map (String.utf8EncodeChar c ++ ·) := by
  unfold escaped
  split
  · rename_i h
    have hn : c.toNat < 0x20 := by simp [isNumbered] at h; omega
    rw [List.singleton_append, assemble_unit hn, Char.ofNat_toNat]
  · exact assemble_bytes _ more

/-! ## Texts -/

theorem pieces_escapes (cs : List Char) (rest : Bytes) :
    pieces (bytes (cs.flatMap escape) ++ 0x22 :: rest) = some (cs.flatMap escaped, rest) := by
  induction cs with
  | nil => rfl
  | cons c cs ih =>
    rw [List.flatMap_cons, bytes, List.flatMap_append, List.append_assoc]
    exact (pieces_escape c _).trans (by rw [ih]; rfl)

theorem assemble_escapes (cs : List Char) : assemble (cs.flatMap escaped) = some (bytes cs) := by
  induction cs with
  | nil => rfl
  | cons c cs ih => rw [List.flatMap_cons, assemble_escaped, ih]; rfl

theorem encode_quote (s : String) :
    Utf8.encode (quote s) = 0x22 :: bytes (s.toList.flatMap escape) ++ [0x22] := by
  simp [Utf8.encode, quote]
  rfl

/-- **A text that is written between quotes is read back**, and what follows is left. -/
theorem readText_quote (s : String) (rest : Bytes) :
    ∃ tail, Utf8.encode (quote s) ++ rest = 0x22 :: tail ∧ readText tail = some (s, rest) := by
  refine ⟨bytes (s.toList.flatMap escape) ++ 0x22 :: rest, by simp [encode_quote], ?_⟩
  have hs : Utf8.decode? (bytes s.toList) = some s := Utf8.decode?_encode s
  simp [readText, pieces_escapes, assemble_escapes, hs]

end HostAccess.Json
