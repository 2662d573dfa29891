import HostAccess.Proofs.JsonText

/-!
# JSON values are read back

A value that is written is read back as it was, if it holds no numbers, its members are sorted, and it
does not nest too deep. The length of what is written is fuel enough.
-/
namespace HostAccess.Json

/-- A value without numbers, with sorted members, and with no more levels than a number says. -/
inductive Plain : Nat → Value → Prop
  | null {depth} : Plain depth .null
  | bool {depth} (b : Bool) : Plain depth (.bool b)
  | text {depth} (s : String) : Plain depth (.text s)
  | list {depth} {items : List Value} (each : ∀ v ∈ items, Plain depth v) :
    Plain (depth + 1) (.list items)
  | object {depth} {members : Members} (inOrder : sorted members = members)
    (each : ∀ m ∈ members, Plain depth m.2) : Plain (depth + 1) (.object members)

/-- A value is read back from what is written of it, and what follows is left. -/
structure ReadsBack (depth : Nat) (v : Value) : Prop where
  head : ∃ b tail, Utf8.encode v.render = b :: tail ∧ isBlank b = false ∧ b ≠ 0x5D
  value : ∀ fuel rest, (Utf8.encode v.render).length < fuel →
    readValue fuel depth (Utf8.encode v.render ++ rest) = some (v, rest)

theorem skipBlanks_cons {b : UInt8} (h : isBlank b = false) (rest : Bytes) :
    skipBlanks (b :: rest) = b :: rest := by
  simp [skipBlanks, h]

theorem readsBack_text (depth : Nat) (s : String) : ReadsBack depth (.text s) := by
  refine ⟨?_, ?_⟩
  · exact ⟨0x22, _, encode_quote s, rfl, by decide⟩
  · intro fuel rest hfuel
    obtain ⟨tail, hq, hr⟩ := readText_quote s rest
    cases fuel with
    | zero => cases hfuel
    | succ fuel =>
      simp only [Value.render, hq]
      rw [readValue, skipBlanks_cons rfl]
      simp [hr]

theorem readsBack_null (depth : Nat) : ReadsBack depth .null := by
  refine ⟨⟨0x6E, [0x75, 0x6C, 0x6C], rfl, rfl, by decide⟩, fun fuel rest hfuel => ?_⟩
  cases fuel with
  | zero => cases hfuel
  | succ fuel => rfl

theorem readsBack_bool (depth : Nat) (b : Bool) : ReadsBack depth (.bool b) := by
  cases b with
  | true =>
    refine ⟨⟨0x74, [0x72, 0x75, 0x65], rfl, rfl, by decide⟩, fun fuel rest hfuel => ?_⟩
    cases fuel with
    | zero => cases hfuel
    | succ fuel => rfl
  | false =>
    refine ⟨⟨0x66, [0x61, 0x6C, 0x73, 0x65], rfl, rfl, by decide⟩, fun fuel rest hfuel => ?_⟩
    cases fuel with
    | zero => cases hfuel
    | succ fuel => rfl

/-! ## Punctuation -/

theorem encode_comma : Utf8.encode "," = [0x2C] := rfl

theorem encode_colon : Utf8.encode ":" = [0x3A] := rfl

theorem encode_bracket : Utf8.encode "[" = [0x5B] := rfl

theorem encode_bracket_close : Utf8.encode "]" = [0x5D] := rfl

theorem encode_brace : Utf8.encode "\x7b" = [0x7B] := rfl

theorem encode_brace_close : Utf8.encode "\x7d" = [0x7D] := rfl

/-! ## Lists -/

theorem encode_renderItems (v : Value) (vs : List Value) :
    Utf8.encode (renderItems (v :: vs)) =
      0x2C :: (Utf8.encode v.render ++ Utf8.encode (renderItems vs)) := by
  simp only [renderItems, Utf8.encode_append, encode_comma, List.nil_append, List.cons_append]

theorem encode_list (v : Value) (vs : List Value) :
    Utf8.encode (Value.list (v :: vs)).render =
      0x5B :: (Utf8.encode v.render ++ (Utf8.encode (renderItems vs) ++ [0x5D])) := by
  simp only [Value.render, Utf8.encode_append, encode_bracket, encode_bracket_close,
    List.nil_append, List.cons_append, List.append_assoc]

/-- Items are read back up to the end of their list. -/
theorem readItems_render {depth : Nat} {v : Value} {vs : List Value}
    (each : ∀ x ∈ v :: vs, ReadsBack depth x) (fuel : Nat) (rest : Bytes)
    (hfuel : (Utf8.encode v.render).length + (Utf8.encode (renderItems vs)).length + 1 < fuel) :
    readItems fuel depth
        (Utf8.encode v.render ++ (Utf8.encode (renderItems vs) ++ 0x5D :: rest)) =
      some (v :: vs, rest) := by
  induction vs generalizing v fuel with
  | nil =>
    cases fuel with
    | zero => cases hfuel
    | succ fuel =>
      have hv := (each v List.mem_cons_self).value fuel (Utf8.encode (renderItems []) ++ 0x5D :: rest)
        (by omega)
      rw [readItems, hv]
      rfl
  | cons w ws ih =>
    cases fuel with
    | zero => cases hfuel
    | succ fuel =>
      have hv := (each v List.mem_cons_self).value fuel
        (Utf8.encode (renderItems (w :: ws)) ++ 0x5D :: rest) (by omega)
      rw [encode_renderItems, List.length_cons, List.length_append] at hfuel
      have htail := ih (fun x hx => each x (List.mem_cons_of_mem v hx)) fuel (by omega)
      rw [readItems, hv]
      simp only [Option.bind_eq_bind, Option.bind_some, encode_renderItems, List.cons_append,
        List.append_assoc, skipBlanks_cons (b := 0x2C) rfl, htail]
      rfl

theorem readsBack_list {depth : Nat} {items : List Value}
    (each : ∀ v ∈ items, ReadsBack depth v) : ReadsBack (depth + 1) (.list items) := by
  cases items with
  | nil =>
    refine ⟨⟨0x5B, [0x5D], rfl, rfl, by decide⟩, fun fuel rest hfuel => ?_⟩
    cases fuel with
    | zero => cases hfuel
    | succ fuel => rfl
  | cons v vs =>
    refine ⟨⟨0x5B, _, encode_list v vs, rfl, by decide⟩, fun fuel rest hfuel => ?_⟩
    obtain ⟨b, tail, hb, blank, ne⟩ := (each v List.mem_cons_self).head
    cases fuel with
    | zero => cases hfuel
    | succ fuel =>
      rw [encode_list] at hfuel ⊢
      simp only [List.length_cons, List.length_append, List.length_nil] at hfuel
      have hitems := readItems_render each fuel rest (by omega)
      simp only [hb, List.cons_append] at hitems
      simp only [List.cons_append, List.append_assoc, List.nil_append, hb, readValue,
        skipBlanks_cons (b := 0x5B) rfl, skipBlanks_cons blank]
      rw [if_neg (Nat.succ_ne_zero depth)]
      split
      · rename_i h
        exact absurd (List.cons.inj h).1 ne
      · rw [Nat.add_sub_cancel, hitems]
        rfl

/-! ## Objects -/

theorem readKey_quote (key : String) (rest : Bytes) :
    readKey (Utf8.encode (quote key) ++ 0x3A :: rest) = some (key, rest) := by
  obtain ⟨tail, hq, hr⟩ := readText_quote key (0x3A :: rest)
  rw [hq, readKey, skipBlanks_cons rfl]
  simp only [hr, Option.bind_eq_bind, Option.bind_some, skipBlanks_cons (b := 0x3A) rfl]

theorem encode_renderMembers (k : String) (v : Value) (ms : Members) :
    Utf8.encode (renderMembers ((k, v) :: ms)) = 0x2C :: (Utf8.encode (quote k) ++
      0x3A :: (Utf8.encode v.render ++ Utf8.encode (renderMembers ms))) := by
  simp only [renderMembers, Utf8.encode_append, encode_comma, encode_colon, List.nil_append,
    List.cons_append, List.append_assoc]

theorem encode_object (k : String) (v : Value) (ms : Members) :
    Utf8.encode (Value.object ((k, v) :: ms)).render = 0x7B :: (Utf8.encode (quote k) ++
      0x3A :: (Utf8.encode v.render ++ (Utf8.encode (renderMembers ms) ++ [0x7D]))) := by
  simp only [Value.render, Utf8.encode_append, encode_brace, encode_brace_close, encode_colon,
    List.nil_append, List.cons_append, List.append_assoc]

/-- Members are read back up to the end of their object. -/
theorem readMembers_render {depth : Nat} {k : String} {v : Value} {ms : Members}
    (each : ∀ m ∈ (k, v) :: ms, ReadsBack depth m.2) (fuel : Nat) (rest : Bytes)
    (hfuel : (Utf8.encode v.render).length + (Utf8.encode (renderMembers ms)).length + 1 < fuel) :
    readMembers fuel depth (Utf8.encode (quote k) ++
        0x3A :: (Utf8.encode v.render ++ (Utf8.encode (renderMembers ms) ++ 0x7D :: rest))) =
      some ((k, v) :: ms, rest) := by
  induction ms generalizing k v fuel with
  | nil =>
    cases fuel with
    | zero => cases hfuel
    | succ fuel =>
      have first : ReadsBack depth v := each (k, v) List.mem_cons_self
      have hv := first.value fuel (Utf8.encode (renderMembers []) ++ 0x7D :: rest) (by omega)
      rw [readMembers, readKey_quote]
      simp only [Option.bind_eq_bind, Option.bind_some, hv]
      rfl
  | cons m ms ih =>
    obtain ⟨l, x⟩ := m
    cases fuel with
    | zero => cases hfuel
    | succ fuel =>
      have first : ReadsBack depth v := each (k, v) List.mem_cons_self
      have hv := first.value fuel (Utf8.encode (renderMembers ((l, x) :: ms)) ++ 0x7D :: rest)
        (by omega)
      rw [encode_renderMembers] at hfuel
      simp only [List.length_cons, List.length_append] at hfuel
      have htail := ih (k := l) (v := x) (fun y hy => each y (List.mem_cons_of_mem (k, v) hy)) fuel
        (by omega)
      rw [readMembers, readKey_quote]
      simp only [Option.bind_eq_bind, Option.bind_some, hv]
      simp only [encode_renderMembers, List.cons_append, List.append_assoc,
        skipBlanks_cons (b := 0x2C) rfl, htail]
      rfl

/-- An object is read back with its members in order. -/
theorem readValue_object {depth : Nat} {members : Members}
    (each : ∀ m ∈ members, ReadsBack depth m.2) (fuel : Nat) (rest : Bytes)
    (hfuel : (Utf8.encode (Value.object members).render).length < fuel) :
    readValue fuel (depth + 1) (Utf8.encode (Value.object members).render ++ rest) =
      some (.object (sorted members), rest) := by
  cases fuel with
  | zero => cases hfuel
  | succ fuel =>
    cases members with
    | nil => rfl
    | cons m ms =>
      obtain ⟨k, v⟩ := m
      rw [encode_object] at hfuel ⊢
      simp only [List.length_cons, List.length_append, List.length_nil] at hfuel
      have hmembers := readMembers_render each fuel rest (by omega)
      simp only [encode_quote, List.cons_append, List.append_assoc, List.nil_append] at hmembers
      simp only [List.cons_append, List.append_assoc, List.nil_append, encode_quote, readValue,
        skipBlanks_cons (b := 0x7B) rfl, skipBlanks_cons (b := 0x22) rfl]
      rw [if_neg (Nat.succ_ne_zero depth)]
      change (readMembers fuel (depth + 1 - 1) _).map _ = _
      rw [Nat.add_sub_cancel, hmembers]
      rfl

theorem readsBack_object {depth : Nat} {members : Members} (inOrder : sorted members = members)
    (each : ∀ m ∈ members, ReadsBack depth m.2) : ReadsBack (depth + 1) (.object members) := by
  refine ⟨?_, fun fuel rest hfuel => ?_⟩
  · cases members with
    | nil => exact ⟨0x7B, [0x7D], rfl, rfl, by decide⟩
    | cons m ms => exact ⟨0x7B, _, encode_object m.1 m.2 ms, rfl, by decide⟩
  · rw [readValue_object each fuel rest hfuel, inOrder]

/-! ## Values -/

/-- **A plain value that is written is read back.** -/
theorem readsBack_of_plain {depth : Nat} {v : Value} (h : Plain depth v) : ReadsBack depth v := by
  induction h with
  | null => exact readsBack_null _
  | bool b => exact readsBack_bool _ b
  | text s => exact readsBack_text _ s
  | list _ ih => exact readsBack_list ih
  | object inOrder _ ih => exact readsBack_object inOrder ih

theorem read_render {v : Value} (h : Plain deepest v) : read (Utf8.encode v.render) = some v := by
  have hr := (readsBack_of_plain h).value ((Utf8.encode v.render).length + 1) [] (by omega)
  rw [List.append_nil] at hr
  rw [read, hr]
  rfl

/-- An object whose members are not in order is read back with its members in order. -/
theorem read_object {members : Members} (each : ∀ m ∈ members, Plain (deepest - 1) m.2) :
    read (Utf8.encode (Value.object members).render) = some (.object (sorted members)) := by
  have hr := readValue_object (fun m hm => readsBack_of_plain (each m hm))
    ((Utf8.encode (Value.object members).render).length + 1) [] (by omega)
  have hd : deepest = deepest - 1 + 1 := rfl
  rw [List.append_nil, ← hd] at hr
  rw [read, hr]
  rfl

end HostAccess.Json
