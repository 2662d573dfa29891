import HostAccess.Json.Reader

/-!
# What a byte string says

Beside the reader stands a grammar: which value is in front of a byte string, and what follows it.
The reader finds what the grammar says and nothing else, and passing over a value ends where reading
it does.
-/
namespace HostAccess.Json

/-! ## The grammar -/

/-- The value in front of a byte string, if it is neither a list nor an object. -/
def scalar? : Bytes → Option (Value × Bytes)
  | [] => none
  | 0x22 :: rest => (readText rest).map fun (s, rest) => (.text s, rest)
  | 0x5B :: _ => none
  | 0x7B :: _ => none
  | 0x6E :: rest => (expect [0x75, 0x6C, 0x6C] rest).map fun rest => (.null, rest)
  | 0x74 :: rest => (expect [0x72, 0x75, 0x65] rest).map fun rest => (.bool true, rest)
  | 0x66 :: rest => (expect [0x61, 0x6C, 0x73, 0x65] rest).map fun rest => (.bool false, rest)
  | rest => do
    let (literal, rest) ← readLiteral rest
    return (.number (← literal.value?), rest)

mutual

/-- The value in front of a byte string, nested no deeper than a number says, and what follows. -/
inductive Reads : Nat → Bytes → Value → Bytes → Prop
  | scalar {depth : Nat} {input rest : Bytes} {v : Value}
    (front : scalar? (skipBlanks input) = some (v, rest)) : Reads depth input v rest
  | noItems {depth : Nat} {input inner rest : Bytes} (opened : skipBlanks input = 0x5B :: inner)
    (closed : skipBlanks inner = 0x5D :: rest) : Reads (depth + 1) input (.list []) rest
  | list {depth : Nat} {input inner rest : Bytes} {items : List Value}
    (opened : skipBlanks input = 0x5B :: inner) (goesOn : ∀ tail, skipBlanks inner ≠ 0x5D :: tail)
    (each : ReadsItems depth (skipBlanks inner) items rest) :
    Reads (depth + 1) input (.list items) rest
  | noMembers {depth : Nat} {input inner rest : Bytes} (opened : skipBlanks input = 0x7B :: inner)
    (closed : skipBlanks inner = 0x7D :: rest) : Reads (depth + 1) input (.object []) rest
  | object {depth : Nat} {input inner rest : Bytes} {members : Members}
    (opened : skipBlanks input = 0x7B :: inner) (goesOn : ∀ tail, skipBlanks inner ≠ 0x7D :: tail)
    (each : ReadsMembers depth (skipBlanks inner) members rest) :
    Reads (depth + 1) input (.object (sorted members)) rest

/-- The items of a list up to its end. -/
inductive ReadsItems : Nat → Bytes → List Value → Bytes → Prop
  | last {depth : Nat} {input mid rest : Bytes} {v : Value} (first : Reads depth input v mid)
    (closed : skipBlanks mid = 0x5D :: rest) : ReadsItems depth input [v] rest
  | more {depth : Nat} {input mid later rest : Bytes} {v : Value} {vs : List Value}
    (first : Reads depth input v mid) (comma : skipBlanks mid = 0x2C :: later)
    (others : ReadsItems depth later vs rest) : ReadsItems depth input (v :: vs) rest

/-- The members of an object up to its end, as they stand there: a key may come again. -/
inductive ReadsMembers : Nat → Bytes → Members → Bytes → Prop
  | last {depth : Nat} {input colon mid rest : Bytes} {key : String} {v : Value}
    (named : readKey input = some (key, colon)) (first : Reads depth colon v mid)
    (closed : skipBlanks mid = 0x7D :: rest) : ReadsMembers depth input [(key, v)] rest
  | more {depth : Nat} {input colon mid later rest : Bytes} {key : String} {v : Value}
    {ms : Members} (named : readKey input = some (key, colon)) (first : Reads depth colon v mid)
    (comma : skipBlanks mid = 0x2C :: later) (others : ReadsMembers depth later ms rest) :
    ReadsMembers depth input ((key, v) :: ms) rest

end

/-! ## What is read is in the grammar -/

theorem readValue_cases {fuel depth : Nat} {input rest : Bytes} {v : Value}
    (h : readValue (fuel + 1) depth input = some (v, rest)) :
    scalar? (skipBlanks input) = some (v, rest) ∨
      (∃ inner, skipBlanks input = 0x5B :: inner ∧ depth ≠ 0 ∧
        ((skipBlanks inner = 0x5D :: rest ∧ v = .list []) ∨
          (∀ tail, skipBlanks inner ≠ 0x5D :: tail) ∧ ∃ items,
            readItems fuel (depth - 1) (skipBlanks inner) = some (items, rest) ∧ v = .list items)) ∨
      ∃ inner, skipBlanks input = 0x7B :: inner ∧ depth ≠ 0 ∧
        ((skipBlanks inner = 0x7D :: rest ∧ v = .object []) ∨
          (∀ tail, skipBlanks inner ≠ 0x7D :: tail) ∧ ∃ members,
            readMembers fuel (depth - 1) (skipBlanks inner) = some (members, rest) ∧
              v = .object (sorted members)) := by
  rw [readValue] at h
  generalize skipBlanks input = front at h ⊢
  split at h
  case h_1 => cases h
  case h_3 inner =>
    refine .inr (.inl ⟨inner, rfl, ?_⟩)
    split at h
    · cases h
    · rename_i nested
      refine ⟨nested, ?_⟩
      split at h
      · rename_i tail closed
        simp only [Option.some.injEq, Prod.mk.injEq] at h
        exact .inl ⟨by rw [closed, h.2], h.1.symm⟩
      · rename_i goesOn
        obtain ⟨⟨items, tail⟩, each, he⟩ := Option.map_eq_some_iff.mp h
        obtain ⟨rfl, rfl⟩ := Prod.mk.inj he
        exact .inr ⟨goesOn, items, each, rfl⟩
  case h_4 inner =>
    refine .inr (.inr ⟨inner, rfl, ?_⟩)
    split at h
    · cases h
    · rename_i nested
      refine ⟨nested, ?_⟩
      split at h
      · rename_i tail closed
        simp only [Option.some.injEq, Prod.mk.injEq] at h
        exact .inl ⟨by rw [closed, h.2], h.1.symm⟩
      · rename_i goesOn
        obtain ⟨⟨members, tail⟩, each, he⟩ := Option.map_eq_some_iff.mp h
        obtain ⟨rfl, rfl⟩ := Prod.mk.inj he
        exact .inr ⟨goesOn, members, each, rfl⟩
  -- Every other value is read alike by both.
  all_goals
    refine .inl ?_
    simp_all [scalar?]

theorem readItems_cases {fuel depth : Nat} {input rest : Bytes} {items : List Value}
    (h : readItems (fuel + 1) depth input = some (items, rest)) :
    ∃ v mid, readValue fuel depth input = some (v, mid) ∧
      ((skipBlanks mid = 0x5D :: rest ∧ items = [v]) ∨
        ∃ later vs, skipBlanks mid = 0x2C :: later ∧
          readItems fuel depth later = some (vs, rest) ∧ items = v :: vs) := by
  rw [readItems] at h
  obtain ⟨⟨v, mid⟩, first, h⟩ := Option.bind_eq_some_iff.mp h
  refine ⟨v, mid, first, ?_⟩
  dsimp only at h
  split at h
  · rename_i later comma
    obtain ⟨⟨vs, tail⟩, others, he⟩ := Option.map_eq_some_iff.mp h
    obtain ⟨rfl, rfl⟩ := Prod.mk.inj he
    exact .inr ⟨later, vs, comma, others, rfl⟩
  · rename_i tail closed
    simp only [Option.some.injEq, Prod.mk.injEq] at h
    exact .inl ⟨by rw [closed, h.2], h.1.symm⟩
  · cases h

theorem readMembers_cases {fuel depth : Nat} {input rest : Bytes} {members : Members}
    (h : readMembers (fuel + 1) depth input = some (members, rest)) :
    ∃ key colon v mid, readKey input = some (key, colon) ∧
      readValue fuel depth colon = some (v, mid) ∧
      ((skipBlanks mid = 0x7D :: rest ∧ members = [(key, v)]) ∨
        ∃ later ms, skipBlanks mid = 0x2C :: later ∧
          readMembers fuel depth later = some (ms, rest) ∧ members = (key, v) :: ms) := by
  rw [readMembers] at h
  obtain ⟨⟨key, colon⟩, named, h⟩ := Option.bind_eq_some_iff.mp h
  obtain ⟨⟨v, mid⟩, first, h⟩ := Option.bind_eq_some_iff.mp h
  refine ⟨key, colon, v, mid, named, first, ?_⟩
  dsimp only at h
  split at h
  · rename_i later comma
    obtain ⟨⟨ms, tail⟩, others, he⟩ := Option.map_eq_some_iff.mp h
    obtain ⟨rfl, rfl⟩ := Prod.mk.inj he
    exact .inr ⟨later, ms, comma, others, rfl⟩
  · rename_i tail closed
    simp only [Option.some.injEq, Prod.mk.injEq] at h
    exact .inl ⟨by rw [closed, h.2], h.1.symm⟩
  · cases h

/-- Whatever the fuel, the reader finds only what the grammar says. -/
theorem reads_of_fuel (fuel : Nat) :
    (∀ {depth input v rest}, readValue fuel depth input = some (v, rest) →
      Reads depth input v rest) ∧
    (∀ {depth input items rest}, readItems fuel depth input = some (items, rest) →
      ReadsItems depth input items rest) ∧
    ∀ {depth input members rest}, readMembers fuel depth input = some (members, rest) →
      ReadsMembers depth input members rest := by
  induction fuel with
  | zero => simp [readValue, readItems, readMembers]
  | succ fuel ih =>
    obtain ⟨value, items, members⟩ := ih
    refine ⟨fun h => ?_, fun h => ?_, fun h => ?_⟩
    · obtain front | ⟨inner, opened, nested, h⟩ | ⟨inner, opened, nested, h⟩ := readValue_cases h
      · exact .scalar front
      all_goals
        obtain ⟨less, rfl⟩ := Nat.exists_eq_succ_of_ne_zero nested
        obtain ⟨closed, rfl⟩ | ⟨goesOn, parts, each, rfl⟩ := h
      · exact .noItems opened closed
      · exact .list opened goesOn (items each)
      · exact .noMembers opened closed
      · exact .object opened goesOn (members each)
    · obtain ⟨v, mid, first, ⟨closed, rfl⟩ | ⟨later, vs, comma, others, rfl⟩⟩ := readItems_cases h
      · exact .last (value first) closed
      · exact .more (value first) comma (items others)
    · obtain ⟨key, colon, v, mid, named, first, ⟨closed, rfl⟩ | ⟨later, ms, comma, others, rfl⟩⟩ :=
        readMembers_cases h
      · exact .last named (value first) closed
      · exact .more named (value first) comma (members others)

/-! ## What is read can be passed over -/

theorem readText_eq_some {input rest : Bytes} {s : String} (h : readText input = some (s, rest)) :
    ∃ ps, pieces input = some (ps, rest) := by
  obtain ⟨⟨ps, left⟩, read, h⟩ := Option.bind_eq_some_iff.mp h
  obtain ⟨b, -, h⟩ := Option.bind_eq_some_iff.mp h
  obtain ⟨s', -, h⟩ := Option.bind_eq_some_iff.mp h
  obtain ⟨-, rfl⟩ := Prod.mk.inj (Option.some.inj h)
  exact ⟨ps, read⟩

theorem skipValue_scalar {input rest : Bytes} {v : Value}
    (h : scalar? (skipBlanks input) = some (v, rest)) (fuel : Nat) :
    skipValue (fuel + 1) input = some rest := by
  rw [skipValue]
  generalize skipBlanks input = front at h
  unfold scalar? at h
  split at h
  case h_2 =>
    obtain ⟨⟨s, left⟩, read, he⟩ := Option.map_eq_some_iff.mp h
    obtain ⟨-, rfl⟩ := Prod.mk.inj he
    obtain ⟨ps, read⟩ := readText_eq_some read
    simp [skipText, read]
  case h_8 =>
    obtain ⟨⟨literal, left⟩, read, h⟩ := Option.bind_eq_some_iff.mp h
    obtain ⟨n, -, he⟩ := Option.bind_eq_some_iff.mp h
    obtain ⟨-, rfl⟩ := Prod.mk.inj (Option.some.inj he)
    simp_all
  all_goals simp_all

theorem skipKey_of_readKey {input rest : Bytes} {key : String}
    (h : readKey input = some (key, rest)) :
    ∃ quoted after, skipBlanks input = 0x22 :: quoted ∧ skipText quoted = some after ∧
      skipBlanks after = 0x3A :: rest := by
  unfold readKey at h
  split at h
  · rename_i quoted quote
    obtain ⟨⟨key, after⟩, read, h⟩ := Option.bind_eq_some_iff.mp h
    obtain ⟨ps, read⟩ := readText_eq_some read
    dsimp only at h
    split at h
    · rename_i tail colon
      obtain ⟨-, rfl⟩ := Prod.mk.inj (Option.some.inj h)
      exact ⟨quoted, after, quote, by simp [skipText, read], colon⟩
    · cases h
  · cases h

/-- With the fuel that a value is read with it is passed over, and what follows is the same. -/
theorem skips_of_fuel (fuel : Nat) :
    (∀ {depth input v rest}, readValue fuel depth input = some (v, rest) →
      skipValue fuel input = some rest) ∧
    (∀ {depth input items rest}, readItems fuel depth input = some (items, rest) →
      skipItems fuel input = some rest) ∧
    ∀ {depth input members rest}, readMembers fuel depth input = some (members, rest) →
      skipMembers fuel input = some rest := by
  induction fuel with
  | zero => simp [readValue, readItems, readMembers]
  | succ fuel ih =>
    obtain ⟨value, items, members⟩ := ih
    refine ⟨fun h => ?_, fun h => ?_, fun h => ?_⟩
    · obtain front | ⟨inner, opened, -, h⟩ | ⟨inner, opened, -, h⟩ := readValue_cases h
      · exact skipValue_scalar front fuel
      all_goals obtain ⟨closed, -⟩ | ⟨goesOn, parts, each, -⟩ := h
      · simp [skipValue, opened, closed]
      · simp [skipValue, opened, items each]
      · simp [skipValue, opened, closed]
      · simp [skipValue, opened, members each]
    · obtain ⟨v, mid, first, ⟨closed, -⟩ | ⟨later, vs, comma, others, -⟩⟩ := readItems_cases h
      · simp [skipItems, value first, closed]
      · simp [skipItems, value first, comma, items others]
    · obtain ⟨key, colon, v, mid, named, first, ⟨closed, -⟩ | ⟨later, ms, comma, others, -⟩⟩ :=
        readMembers_cases h
      all_goals obtain ⟨quoted, after, quote, text, colon⟩ := skipKey_of_readKey named
      · simp [skipMembers, quote, text, colon, value first, closed]
      · simp [skipMembers, quote, text, colon, value first, comma, members others]

/-! ## What follows is never longer -/

theorem pieces_length {input rest : Bytes} {ps : List Piece} (h : pieces input = some (ps, rest)) :
    rest.length ≤ input.length := by
  fun_induction pieces input generalizing ps rest with
  | case1 => cases h
  | case2 tail =>
    obtain ⟨-, rfl⟩ := Prod.mk.inj (Option.some.inj h)
    exact Nat.le_succ _
  | case3 a b c d tail ih =>
    obtain ⟨n, -, h⟩ := Option.bind_eq_some_iff.mp h
    obtain ⟨⟨more, left⟩, read, he⟩ := Option.bind_eq_some_iff.mp h
    obtain ⟨-, rfl⟩ := Prod.mk.inj (Option.some.inj he)
    have := ih read
    simp only [List.length_cons]
    omega
  | case4 e tail _ ih =>
    obtain ⟨n, -, h⟩ := Option.bind_eq_some_iff.mp h
    obtain ⟨⟨more, left⟩, read, he⟩ := Option.bind_eq_some_iff.mp h
    obtain ⟨-, rfl⟩ := Prod.mk.inj (Option.some.inj he)
    have := ih read
    simp only [List.length_cons]
    omega
  | case5 => cases h
  | case6 b tail _ _ _ _ ih =>
    obtain ⟨⟨more, left⟩, read, he⟩ := Option.map_eq_some_iff.mp h
    obtain ⟨-, rfl⟩ := Prod.mk.inj he
    exact Nat.le_succ_of_le (ih read)

theorem expect_length {word input rest : Bytes} (h : expect word input = some rest) :
    rest.length ≤ input.length := by
  obtain ⟨-, he⟩ := Option.ite_none_right_eq_some.mp h
  obtain rfl := Option.some.inj he
  exact (List.drop_sublist _ _).length_le

theorem readDigits_length {input digits rest : Bytes}
    (h : readDigits input = some (digits, rest)) : rest.length ≤ input.length := by
  obtain ⟨-, he⟩ := Option.ite_none_left_eq_some.mp h
  obtain ⟨-, rfl⟩ := Prod.mk.inj (Option.some.inj he)
  exact (List.dropWhile_sublist _).length_le

theorem readFraction_length {input rest : Bytes} {f : Option Bytes}
    (h : readFraction input = some (f, rest)) : rest.length ≤ input.length := by
  unfold readFraction at h
  split at h
  · obtain ⟨⟨digits, left⟩, read, he⟩ := Option.map_eq_some_iff.mp h
    obtain ⟨-, rfl⟩ := Prod.mk.inj he
    exact Nat.le_succ_of_le (readDigits_length read)
  · obtain ⟨-, rfl⟩ := Prod.mk.inj (Option.some.inj h)
    exact Nat.le_refl _

theorem readSign_length (input : Bytes) : (readSign input).2.length ≤ input.length := by
  unfold readSign
  split <;> simp

theorem readExponent_length {input rest : Bytes} {f : Option (Bool × Bytes)}
    (h : readExponent input = some (f, rest)) : rest.length ≤ input.length := by
  unfold readExponent at h
  split at h
  · obtain ⟨-, rfl⟩ := Prod.mk.inj (Option.some.inj h)
    exact Nat.le_refl _
  · rename_i b tail
    split at h
    · obtain ⟨⟨digits, left⟩, read, he⟩ := Option.map_eq_some_iff.mp h
      obtain ⟨-, rfl⟩ := Prod.mk.inj he
      exact Nat.le_succ_of_le (Nat.le_trans (readDigits_length read) (readSign_length tail))
    · obtain ⟨-, rfl⟩ := Prod.mk.inj (Option.some.inj h)
      exact Nat.le_refl _

theorem readLiteral_length {input rest : Bytes} {l : Literal}
    (h : readLiteral input = some (l, rest)) : rest.length ≤ input.length := by
  unfold readLiteral at h
  split at h
  rename_i negative start sign
  have hstart : start.length ≤ input.length := by
    split at sign
    all_goals
      obtain ⟨-, rfl⟩ := Prod.mk.inj sign
      simp
  obtain ⟨⟨whole, left⟩, hwhole, h⟩ := Option.bind_eq_some_iff.mp h
  obtain ⟨-, h⟩ := Option.ite_none_left_eq_some.mp h
  obtain ⟨⟨fraction, left'⟩, hfraction, h⟩ := Option.bind_eq_some_iff.mp h
  obtain ⟨⟨exponent, left''⟩, hexponent, h⟩ := Option.bind_eq_some_iff.mp h
  obtain ⟨-, rfl⟩ := Prod.mk.inj (Option.some.inj h)
  have := readDigits_length hwhole
  have := readFraction_length hfraction
  have := readExponent_length hexponent
  omega

theorem scalar?_length {input rest : Bytes} {v : Value} (h : scalar? input = some (v, rest)) :
    rest.length ≤ input.length := by
  unfold scalar? at h
  split at h
  case h_1 | h_3 | h_4 => cases h
  case h_2 =>
    obtain ⟨⟨s, left⟩, read, he⟩ := Option.map_eq_some_iff.mp h
    obtain ⟨-, rfl⟩ := Prod.mk.inj he
    obtain ⟨ps, read⟩ := readText_eq_some read
    exact Nat.le_succ_of_le (pieces_length read)
  case h_8 =>
    obtain ⟨⟨literal, left⟩, read, h⟩ := Option.bind_eq_some_iff.mp h
    obtain ⟨n, -, he⟩ := Option.bind_eq_some_iff.mp h
    obtain ⟨-, rfl⟩ := Prod.mk.inj (Option.some.inj he)
    exact readLiteral_length read
  all_goals
    obtain ⟨left, word, he⟩ := Option.map_eq_some_iff.mp h
    obtain ⟨-, rfl⟩ := Prod.mk.inj he
    exact Nat.le_succ_of_le (expect_length word)

theorem skipBlanks_length (input : Bytes) : (skipBlanks input).length ≤ input.length :=
  (List.dropWhile_sublist _).length_le

theorem length_of_front {input tail : Bytes} {b : UInt8} (h : skipBlanks input = b :: tail) :
    tail.length < input.length := by
  have hle := skipBlanks_length input
  rw [h, List.length_cons] at hle
  omega

theorem length_of_opened {input inner : Bytes} {b : UInt8} (h : skipBlanks input = b :: inner) :
    (skipBlanks inner).length < input.length :=
  Nat.lt_of_le_of_lt (skipBlanks_length inner) (length_of_front h)

theorem readKey_length {input rest : Bytes} {key : String} (h : readKey input = some (key, rest)) :
    rest.length ≤ input.length := by
  unfold readKey at h
  split at h
  · rename_i inner quote
    obtain ⟨⟨key, left⟩, read, h⟩ := Option.bind_eq_some_iff.mp h
    obtain ⟨ps, read⟩ := readText_eq_some read
    dsimp only at h
    split at h
    · rename_i tail colon
      obtain ⟨-, rfl⟩ := Prod.mk.inj (Option.some.inj h)
      have := length_of_front quote
      have := pieces_length read
      have := length_of_front colon
      omega
    · cases h
  · cases h

mutual

theorem Reads.length {depth : Nat} {input rest : Bytes} {v : Value} :
    Reads depth input v rest → rest.length ≤ input.length
  | .scalar front => Nat.le_trans (scalar?_length front) (skipBlanks_length input)
  | .noItems opened closed | .noMembers opened closed => by
    have := length_of_front opened
    have := length_of_front closed
    omega
  | .list opened _ each | .object opened _ each => by
    have := length_of_opened opened
    have := each.length
    omega

theorem ReadsItems.length {depth : Nat} {input rest : Bytes} {items : List Value} :
    ReadsItems depth input items rest → rest.length < input.length
  | .last first closed => by
    have := first.length
    have := length_of_front closed
    omega
  | .more first comma others => by
    have := first.length
    have := length_of_front comma
    have := others.length
    omega

theorem ReadsMembers.length {depth : Nat} {input rest : Bytes} {members : Members} :
    ReadsMembers depth input members rest → rest.length < input.length
  | .last named first closed => by
    have := readKey_length named
    have := first.length
    have := length_of_front closed
    omega
  | .more named first comma others => by
    have := readKey_length named
    have := first.length
    have := length_of_front comma
    have := others.length
    omega

end

/-! ## What is in the grammar is read -/

theorem readValue_scalar {input rest : Bytes} {v : Value}
    (h : scalar? (skipBlanks input) = some (v, rest)) (fuel depth : Nat) :
    readValue (fuel + 1) depth input = some (v, rest) := by
  rw [readValue]
  generalize skipBlanks input = front at h
  unfold scalar? at h
  split at h
  all_goals simp_all

mutual

/-- With fuel for every byte that it takes up, a value is read. -/
theorem Reads.found {depth : Nat} {input rest : Bytes} {v : Value} :
    Reads depth input v rest → ∀ fuel, input.length < fuel + rest.length →
      readValue fuel depth input = some (v, rest)
  | h, 0, hfuel => by
    have := h.length
    omega
  | .scalar front, fuel + 1, hfuel => readValue_scalar front fuel depth
  | .noItems opened closed, fuel + 1, hfuel => by simp [readValue, opened, closed]
  | .noMembers opened closed, fuel + 1, hfuel => by simp [readValue, opened, closed]
  | .list opened goesOn each, fuel + 1, hfuel | .object opened goesOn each, fuel + 1, hfuel => by
    have := length_of_opened opened
    simp [readValue, opened, each.found fuel (by omega)]

theorem ReadsItems.found {depth : Nat} {input rest : Bytes} {items : List Value} :
    ReadsItems depth input items rest → ∀ fuel, input.length < fuel + rest.length →
      readItems fuel depth input = some (items, rest)
  | h, 0, hfuel => by
    have := h.length
    omega
  | .last first closed, fuel + 1, hfuel => by
    have := length_of_front closed
    simp [readItems, first.found fuel (by omega), closed]
  | .more first comma others, fuel + 1, hfuel => by
    have := length_of_front comma
    have := first.length
    have := others.length
    simp [readItems, first.found fuel (by omega), comma, others.found fuel (by omega)]

theorem ReadsMembers.found {depth : Nat} {input rest : Bytes} {members : Members} :
    ReadsMembers depth input members rest → ∀ fuel, input.length < fuel + rest.length →
      readMembers fuel depth input = some (members, rest)
  | h, 0, hfuel => by
    have := h.length
    omega
  | .last named first closed, fuel + 1, hfuel => by
    have := readKey_length named
    have := length_of_front closed
    simp [readMembers, named, first.found fuel (by omega), closed]
  | .more named first comma others, fuel + 1, hfuel => by
    have := readKey_length named
    have := length_of_front comma
    have := first.length
    have := others.length
    simp [readMembers, named, first.found fuel (by omega), comma, others.found fuel (by omega)]

end

theorem read_eq_some_iff {input : Bytes} {v : Value} :
    read input = some v ↔ ∃ rest, Reads deepest input v rest ∧ skipBlanks rest = [] := by
  unfold read
  constructor
  · intro h
    split at h
    · rename_i v' rest found
      obtain ⟨ended, he⟩ := Option.ite_none_right_eq_some.mp h
      obtain rfl := Option.some.inj he
      exact ⟨rest, (reads_of_fuel _).1 found, List.isEmpty_iff.mp ended⟩
    · cases h
  · rintro ⟨rest, found, ended⟩
    rw [found.found (input.length + 1) (by omega)]
    simp [ended]

end HostAccess.Json
