import HostAccess.Json.Skim
import HostAccess.Proofs.JsonProper

/-!
# What chosen members are read of

Whoever looks for chosen members of an object finds what a reader of the whole object finds under
their keys, if each of them comes once. What is no object has chosen members only if it is a list that
is not too long.
-/
namespace HostAccess.Json.Skim

/-! ## Objects -/

/-- The members found so far, with one more if it is chosen. -/
def keep (names : List String) (found : Found) (m : String × Value) : Found :=
  if names.contains m.1 then (m.1, present m.2) :: found else found

section

variable {names : List String} {key : String} (chosen : key ∈ names)

include chosen

theorem lookup_keep (found : Found) (m : String × Value) :
    (keep names found m).lookup key =
      if key = m.1 then some (present m.2) else found.lookup key := by
  unfold keep
  by_cases same : key = m.1
  · rw [if_pos same, if_pos (by simpa [← same] using chosen), List.lookup_cons, ← same]
    simp
  · rw [if_neg same]
    split
    · rw [List.lookup_cons, beq_eq_false_iff_ne.mpr same]
    · rfl

theorem count_keep (found : Found) (m : String × Value) :
    ((keep names found m).map (·.1)).count key =
      (found.map (·.1)).count key + if m.1 = key then 1 else 0 := by
  unfold keep
  by_cases same : m.1 = key
  · rw [if_pos (by simpa [same] using chosen), if_pos same, List.map_cons, same,
      List.count_cons_self]
  · rw [if_neg same]
    split
    · rw [List.map_cons, List.count_cons_of_ne same]
      rfl
    · rfl

/-- What is found under a chosen key that comes once. -/
theorem lookup_foldl_keep {members : Members} {found : Found}
    (once : (members.map (·.1)).count key + (found.map (·.1)).count key ≤ 1) :
    (members.foldl (keep names) found).lookup key =
      ((members.lookup key).map present).or (found.lookup key) := by
  induction members generalizing found with
  | nil => rfl
  | cons m rest ih =>
    obtain ⟨k, v⟩ := m
    rw [List.map_cons, List.count_cons] at once
    rw [List.foldl_cons, ih (by rw [count_keep chosen]; simp at once ⊢; omega), lookup_keep chosen,
      lookup_member]
    by_cases same : key = k
    · have later : rest.lookup key = none :=
        lookup_eq_none_of_count (by simp [same] at once ⊢; omega)
      rw [later, if_pos same, if_pos same]
      rfl
    · rw [if_neg same, if_neg same]

end

/-- A member is kept if it is chosen and comes for the first time, and what follows it decides how
the search goes on. -/
theorem members_succ {names : List String} {fuel depth : Nat} {found : Found}
    {input colon mid : Bytes} {key : String} {v : Value} (named : readKey input = some (key, colon))
    (read : readValue fuel depth colon = some (v, mid)) {later : Members}
    (once : key ∈ names →
      (((key, v) :: later).map (·.1)).count key + (found.map (·.1)).count key ≤ 1) :
    (∀ rest, skipBlanks mid = 0x7D :: rest →
      members names (fuel + 1) depth found input = some (keep names found (key, v), rest)) ∧
    ∀ rest, skipBlanks mid = 0x2C :: rest →
      members names (fuel + 1) depth found input =
        members names fuel depth (keep names found (key, v)) rest := by
  rw [members, named]
  unfold keep
  by_cases chosen : key ∈ names
  · have absent : found.lookup key = none := by
      have := once chosen
      rw [List.map_cons, List.count_cons_self] at this
      exact lookup_eq_none_of_count (by omega)
    constructor <;> intro rest next <;> simp [chosen, absent, read, next]
  · have skipped := (skips_of_fuel fuel).1 read
    constructor <;> intro rest next <;> simp [chosen, skipped, next]

/-- The members that stand in an object are looked through to its end if no chosen key comes again. -/
theorem members_of_reads {names : List String} {fuel depth : Nat} {found : Found}
    {input rest : Bytes} {standing : Members} (h : ReadsMembers depth input standing rest)
    (enough : input.length < fuel + rest.length)
    (once : ∀ key ∈ names, (standing.map (·.1)).count key + (found.map (·.1)).count key ≤ 1) :
    members names fuel depth found input = some (standing.foldl (keep names) found, rest) := by
  induction fuel generalizing input standing found with
  | zero =>
    have := h.length
    omega
  | succ fuel ih =>
    cases h with
    | last named first closed =>
      have := readKey_length named
      have := length_of_front closed
      have read := first.found fuel (by omega)
      exact (members_succ named read (once _)).1 _ closed
    | more named first comma others =>
      have := readKey_length named
      have := length_of_front comma
      have := first.length
      have := others.length
      have read := first.found fuel (by omega)
      rw [(members_succ named read (once _)).2 _ comma, ih others (by omega) fun key chosen => ?_]
      · rfl
      · have := once key chosen
        rw [count_keep chosen]
        simp [List.count_cons] at this ⊢
        omega

/-- **Under a chosen key that comes once is found what stands there.** -/
theorem read_of_standing {names : List String} {body : Bytes} {standing : Members}
    (object : standing? body = some standing)
    (once : ∀ key ∈ names, (standing.map (·.1)).count key ≤ 1) :
    ∃ found, read names body = some found ∧
      ∀ key ∈ names, found.lookup key = (standing.lookup key).map present := by
  refine ⟨standing.foldl (keep names) [], ?_, fun key chosen => ?_⟩
  · obtain ⟨inner, rest, opened, ended, ⟨rfl, closed⟩ | ⟨goesOn, each⟩⟩ :=
      standing?_eq_some_iff.mp object
    · simp [read, opened, closed, ended]
    · have := length_of_opened opened
      have looked : members names (body.length + 1) (deepest - 1) [] (skipBlanks inner) = _ :=
        members_of_reads each (by omega) (by simpa using once)
      simp [read, opened, looked, ended]
  · rw [lookup_foldl_keep chosen (by simpa using once key chosen)]
    simp

/-! ## What is no object -/

/-- Whether a byte string has the form of an object. How deep it nests, how large its numbers are
and what its texts decode to makes no difference. -/
def IsObject (input : Bytes) : Prop :=
  ∃ inner rest fuel, skipBlanks input = 0x7B :: inner ∧ skipValue fuel input = some rest ∧
    skipBlanks rest = []

theorem not_isObject_of_head {input : Bytes} (h : (skipBlanks input).head? ≠ some 0x7B) :
    ¬IsObject input := by
  rintro ⟨inner, -, -, brace, -⟩
  exact h (brace ▸ rfl)

/-- Of what is read as a value, objects have the form of one. -/
theorem isObject_iff_of_read {body : Bytes} {v : Value} (read : Json.read body = some v) :
    IsObject body ↔ ∃ members, v = .object members := by
  obtain ⟨rest, found, ended⟩ := read_eq_some_iff.mp read
  have skipped := (skips_of_fuel _).1 (found.found (body.length + 1) (by omega))
  constructor
  · rintro ⟨inner, -, -, brace, -⟩
    cases found with
    | scalar front =>
      rw [brace] at front
      cases front
    | noItems opened | list opened => cases brace.symm.trans opened
    | noMembers | object => exact ⟨_, rfl⟩
  · rintro ⟨members, rfl⟩
    generalize hv : Value.object members = v at found
    cases found with
    | scalar front => exact absurd hv.symm ((proper_of_scalar? front).2.2 members)
    | noItems | list => cases hv
    | noMembers opened | object opened => exact ⟨_, rest, _, opened, skipped, ended⟩

/-- Whatever is done with a member, it is passed over, and then the end or the next one comes. -/
theorem members_cases {names : List String} {fuel depth : Nat} {found left : Found}
    {input rest : Bytes} (h : members names (fuel + 1) depth found input = some (left, rest)) :
    ∃ key colon mid, readKey input = some (key, colon) ∧ skipValue fuel colon = some mid ∧
      (skipBlanks mid = 0x7D :: rest ∨ ∃ kept next, skipBlanks mid = 0x2C :: next ∧
        members names fuel depth kept next = some (left, rest)) := by
  rw [members] at h
  obtain ⟨⟨key, colon⟩, named, h⟩ := Option.bind_eq_some_iff.mp h
  refine ⟨key, colon, ?_⟩
  dsimp only at h
  split at h
  case' isTrue =>
    split at h
    · cases h
    obtain ⟨⟨kept, mid⟩, first, h⟩ := Option.bind_eq_some_iff.mp h
    obtain ⟨⟨v, after⟩, value, he⟩ := Option.map_eq_some_iff.mp first
    obtain ⟨rfl, rfl⟩ := Prod.mk.inj he
    refine ⟨_, named, (skips_of_fuel fuel).1 value, ?_⟩
  case' isFalse =>
    obtain ⟨⟨kept, mid⟩, first, h⟩ := Option.bind_eq_some_iff.mp h
    obtain ⟨after, skipped, he⟩ := Option.map_eq_some_iff.mp first
    obtain ⟨rfl, rfl⟩ := Prod.mk.inj he
    refine ⟨_, named, skipped, ?_⟩
  -- Chosen or not, the same comes after a member.
  all_goals
    split at h
    · rename_i next comma
      exact .inr ⟨_, next, comma, h⟩
    · rename_i tail closed
      obtain ⟨-, rfl⟩ := Prod.mk.inj (Option.some.inj h)
      exact .inl closed
    · cases h

/-- What is looked through for chosen members is passed over. -/
theorem skipMembers_of_members {names : List String} {fuel depth : Nat} {found left : Found}
    {input rest : Bytes} (h : members names fuel depth found input = some (left, rest)) :
    skipMembers fuel input = some rest := by
  induction fuel generalizing found input with
  | zero =>
    rw [members] at h
    cases h
  | succ fuel ih =>
    obtain ⟨key, colon, mid, named, skipped, next⟩ := members_cases h
    obtain ⟨quoted, after, quote, text, mark⟩ := skipKey_of_readKey named
    obtain closed | ⟨kept, next, comma, h⟩ := next
    · simp [skipMembers, quote, text, mark, skipped, closed]
    · simp [skipMembers, quote, text, mark, skipped, comma, ih h]

theorem isObject_of_read {names : List String} {body inner : Bytes} {found : Found}
    (opened : skipBlanks body = 0x7B :: inner) (h : read names body = some found) :
    IsObject body := by
  unfold read at h
  simp only [opened] at h
  split at h
  · rename_i rest closed
    have ended : skipBlanks rest = [] := by
      simp at h
      exact h.1
    exact ⟨inner, rest, 1, opened, by simp [skipValue, opened, closed], ended⟩
  · rename_i goesOn
    obtain ⟨⟨left, rest⟩, looked, h⟩ := Option.bind_eq_some_iff.mp h
    obtain ⟨ended, -⟩ := Option.ite_none_right_eq_some.mp h
    refine ⟨inner, rest, body.length + 2, opened, ?_, List.isEmpty_iff.mp ended⟩
    simp [skipValue, opened, skipMembers_of_members looked]

/-- **What is no object has chosen members if it is a short list**, by their places. -/
theorem read_eq_some_of_not_isObject {names : List String} {body : Bytes} {found : Found}
    (other : ¬ IsObject body) :
    read names body = some found ↔
      ∃ items, Json.read body = some (.list items) ∧ items.length ≤ names.length ∧
        found = names.zip (items.map present) := by
  simp only [read_eq_list_iff]
  constructor
  · intro h
    have whole := h
    unfold read at h
    dsimp only at h
    split at h
    · rename_i inner opened
      exact absurd (isObject_of_read opened whole) other
    · rename_i inner opened
      split at h
      · rename_i rest closed
        simp only [Option.bind_eq_bind, Option.bind_some, Option.ite_none_right_eq_some,
          Option.some.injEq] at h
        exact ⟨[], ⟨inner, rest, opened, List.isEmpty_iff.mp h.1, .inl ⟨rfl, closed⟩⟩,
          Nat.zero_le _, by simp [← h.2]⟩
      · rename_i goesOn
        obtain ⟨⟨items, rest⟩, each, h⟩ := Option.bind_eq_some_iff.mp h
        dsimp only at h
        split at h
        · rename_i short
          simp only [Option.bind_eq_bind, Option.bind_some, Option.ite_none_right_eq_some,
            Option.some.injEq] at h
          exact ⟨items, ⟨inner, rest, opened, List.isEmpty_iff.mp h.1,
            .inr ⟨goesOn, (reads_of_fuel _).2.1 each⟩⟩, short, h.2.symm⟩
        · simp at h
    · simp at h
  · rintro ⟨items, ⟨inner, rest, opened, ended, ⟨rfl, closed⟩ | ⟨goesOn, each⟩⟩, short, rfl⟩
    · simp [read, opened, closed, ended]
    · have := length_of_opened opened
      simp [read, opened, each.found (body.length + 1) (by omega), ended, short]

end HostAccess.Json.Skim
