import HostAccess.Proofs.JsonGrammar
import HostAccess.Proofs.JsonMembers

/-!
# Values as they are read

A value that is read is a proper one: its integers are in their range, and the members of its
objects are in order. An object is read from the members that stand in a byte string, in which a key
may come again; under a key that comes once stands what was put there.
-/
namespace HostAccess.Json

/-! ## Proper values -/

/-- A value as it can be read: integers are in their range, and members are in order. -/
inductive Proper : Value → Prop
  | null : Proper .null
  | bool (b : Bool) : Proper (.bool b)
  | integer {n : Int} (low : -0x8000000000000000 ≤ n) (high : n < 0x10000000000000000) :
    Proper (.number (.integer n))
  | real (x : Binary64) : Proper (.number (.real x))
  | text (s : String) : Proper (.text s)
  | list {items : List Value} (each : ∀ v ∈ items, Proper v) : Proper (.list items)
  | object {members : Members} (inOrder : Ordered members) (each : ∀ m ∈ members, Proper m.2) :
    Proper (.object members)

theorem Proper.member {v w : Value} {key : String} (h : Proper v)
    (there : v.member? key = some w) : Proper w := by
  cases h with
  | object inOrder each => exact each _ ((inOrder.mem_iff_lookup (m := (key, w))).mpr there)
  | _ => cases there

theorem gather_le {n : Nat} {digits : Bytes} (h : n ≤ largestNatural) :
    (gather n digits).1 ≤ largestNatural := by
  fun_induction gather n digits with
  | case1 => exact h
  | case2 => exact h
  | case3 n d ds m fits ih => exact ih (Nat.not_lt.mp fits)

theorem proper_integer {n : Nat} {negative : Bool} (range : n ≤ largestNatural)
    (kept : negative = true → n ≤ largestNegated) :
    Proper (.number (.integer (if negative then -n else n))) := by
  unfold largestNatural at range
  unfold largestNegated at kept
  cases negative with
  | true =>
    have := kept rfl
    exact .integer (by simp only [if_true]; omega) (by simp only [if_true]; omega)
  | false => exact .integer (by simp) (by simp; omega)

theorem proper_number {l : Literal} {n : Number} (h : l.value? = some n) : Proper (.number n) := by
  cases n with
  | real x => exact .real x
  | integer n =>
    have range : (gather 0 l.whole).1 ≤ largestNatural := gather_le (Nat.zero_le _)
    unfold Literal.value? at h
    split at h
    rename_i m excess gathered
    rw [gathered] at range
    split at h
    · split at h
      · rename_i kept
        obtain rfl := Number.integer.inj (Option.some.inj h)
        simp only [Bool.and_eq_true, Bool.or_eq_true, Bool.not_eq_true', decide_eq_true_eq] at kept
        exact proper_integer range fun negative => by simp_all
      · simp at h
    · -- What has a fraction or an exponent is no integer.
      split at h
      · simp at h
      · dsimp only at h
        split at h
        · split at h
          · simp at h
          · cases h
        · simp at h

theorem proper_of_scalar? {input rest : Bytes} {v : Value}
    (h : scalar? input = some (v, rest)) :
    Proper v ∧ (∀ items, v ≠ .list items) ∧ ∀ members, v ≠ .object members := by
  unfold scalar? at h
  split at h
  case h_8 =>
    obtain ⟨⟨literal, left⟩, -, h⟩ := Option.bind_eq_some_iff.mp h
    obtain ⟨n, number, he⟩ := Option.bind_eq_some_iff.mp h
    obtain ⟨rfl, -⟩ := Prod.mk.inj (Option.some.inj he)
    exact ⟨proper_number number, by simp, by simp⟩
  case h_1 | h_3 | h_4 => cases h
  all_goals
    obtain ⟨left, -, he⟩ := Option.map_eq_some_iff.mp h
    obtain ⟨rfl, -⟩ := Prod.mk.inj he
    exact ⟨by constructor, by simp, by simp⟩

theorem ordered_sorted (members : Members) : Ordered (sorted members) := by
  have each : ∀ done : Members, Ordered done →
      Ordered (members.foldl (fun done m => insert m.1 m.2 done) done) := by
    induction members with
    | nil => exact fun done h => h
    | cons m rest ih => exact fun done h => ih _ (h.insert m.1 m.2)
  exact each [] List.Pairwise.nil

theorem mem_of_mem_sorted {members : Members} {m : String × Value} (h : m ∈ sorted members) :
    m ∈ members := by
  have each : ∀ done : Members, m ∈ members.foldl (fun done m => insert m.1 m.2 done) done →
      m ∈ done ∨ m ∈ members := by
    clear h
    induction members with
    | nil => exact fun done h => .inl h
    | cons first rest ih =>
      intro done h
      obtain before | later := ih _ h
      · obtain rfl | before := mem_insert before
        · exact .inr List.mem_cons_self
        · exact .inl before
      · exact .inr (List.mem_cons_of_mem _ later)
  exact (each [] h).resolve_left List.not_mem_nil

mutual

theorem Reads.proper {depth : Nat} {input rest : Bytes} {v : Value} :
    Reads depth input v rest → Proper v
  | .scalar front => (proper_of_scalar? front).1
  | .noItems _ _ => .list (by simp)
  | .list _ _ each => .list each.proper
  | .noMembers _ _ => .object List.Pairwise.nil (by simp)
  | .object _ _ each => .object (ordered_sorted _) fun m hm => each.proper m (mem_of_mem_sorted hm)

theorem ReadsItems.proper {depth : Nat} {input rest : Bytes} {items : List Value} :
    ReadsItems depth input items rest → ∀ v ∈ items, Proper v
  | .last first _ => by simpa using first.proper
  | .more first _ others => by simpa using ⟨first.proper, others.proper⟩

theorem ReadsMembers.proper {depth : Nat} {input rest : Bytes} {members : Members} :
    ReadsMembers depth input members rest → ∀ m ∈ members, Proper m.2
  | .last _ first _ => by simpa using first.proper
  | .more _ first _ others => by
    rw [List.forall_mem_cons]
    exact ⟨first.proper, others.proper⟩

end

/-- **What is read is proper.** -/
theorem proper_of_read {input : Bytes} {v : Value} (h : read input = some v) : Proper v := by
  obtain ⟨rest, found, -⟩ := read_eq_some_iff.mp h
  exact found.proper

/-! ## Lists -/

theorem read_eq_list_iff {input : Bytes} {items : List Value} :
    read input = some (.list items) ↔
      ∃ inner rest, skipBlanks input = 0x5B :: inner ∧ skipBlanks rest = [] ∧
        ((items = [] ∧ skipBlanks inner = 0x5D :: rest) ∨
          (∀ tail, skipBlanks inner ≠ 0x5D :: tail) ∧
            ReadsItems (deepest - 1) (skipBlanks inner) items rest) := by
  rw [read_eq_some_iff]
  constructor
  · rintro ⟨rest, found, ended⟩
    generalize hd : deepest = depth at found
    generalize hv : Value.list items = v at found
    cases found with
    | scalar front => exact absurd hv.symm ((proper_of_scalar? front).2.1 items)
    | noMembers => cases hv
    | object => cases hv
    | noItems opened closed =>
      cases hv
      exact ⟨_, rest, opened, ended, .inl ⟨rfl, closed⟩⟩
    | list opened goesOn each =>
      cases hv
      cases hd
      exact ⟨_, rest, opened, ended, .inr ⟨goesOn, each⟩⟩
  · rintro ⟨inner, rest, opened, ended, ⟨rfl, closed⟩ | ⟨goesOn, each⟩⟩
    · exact ⟨rest, .noItems opened closed, ended⟩
    · exact ⟨rest, .list opened goesOn each, ended⟩

/-! ## Objects -/

/-- The members of the object that a byte string is, as they stand there: a key may come again. -/
def standing? (input : Bytes) : Option Members :=
  match skipBlanks input with
  | 0x7B :: inner =>
    let found := match skipBlanks inner with
      | 0x7D :: rest => some ([], rest)
      | inner => readMembers input.length (deepest - 1) inner
    found.bind fun (members, rest) => if (skipBlanks rest).isEmpty then some members else none
  | _ => none

theorem standing?_eq_some_iff {input : Bytes} {members : Members} :
    standing? input = some members ↔
      ∃ inner rest, skipBlanks input = 0x7B :: inner ∧ skipBlanks rest = [] ∧
        ((members = [] ∧ skipBlanks inner = 0x7D :: rest) ∨
          (∀ tail, skipBlanks inner ≠ 0x7D :: tail) ∧
            ReadsMembers (deepest - 1) (skipBlanks inner) members rest) := by
  unfold standing?
  constructor
  · intro h
    split at h
    · rename_i inner brace
      obtain ⟨⟨found, rest⟩, opened, h⟩ := Option.bind_eq_some_iff.mp h
      obtain ⟨ended, he⟩ := Option.ite_none_right_eq_some.mp h
      obtain rfl := Option.some.inj he
      refine ⟨inner, rest, brace, List.isEmpty_iff.mp ended, ?_⟩
      split at opened
      · rename_i tail closed
        obtain ⟨rfl, rfl⟩ := Prod.mk.inj (Option.some.inj opened)
        exact .inl ⟨rfl, closed⟩
      · rename_i goesOn
        exact .inr ⟨goesOn, (reads_of_fuel _).2.2 opened⟩
    · cases h
  · rintro ⟨inner, rest, brace, ended, ⟨rfl, closed⟩ | ⟨goesOn, each⟩⟩
    · simp [brace, closed, ended]
    · have := length_of_opened brace
      simp [brace, each.found input.length (by omega), ended]

/-- **An object that is read has the members that stand in it, put in order.** -/
theorem read_eq_object_iff {input : Bytes} {members : Members} :
    read input = some (.object members) ↔
      ∃ standing, standing? input = some standing ∧ members = sorted standing := by
  rw [read_eq_some_iff]
  simp only [standing?_eq_some_iff]
  constructor
  · rintro ⟨rest, found, ended⟩
    generalize hd : deepest = depth at found
    generalize hv : Value.object members = v at found
    cases found with
    | scalar front => exact absurd hv.symm ((proper_of_scalar? front).2.2 members)
    | noItems => cases hv
    | list => cases hv
    | noMembers opened closed =>
      cases hv
      exact ⟨[], ⟨_, rest, opened, ended, .inl ⟨rfl, closed⟩⟩, rfl⟩
    | object opened goesOn each =>
      cases hv
      cases hd
      exact ⟨_, ⟨_, rest, opened, ended, .inr ⟨goesOn, each⟩⟩, rfl⟩
  · rintro ⟨standing, ⟨inner, rest, opened, ended, ⟨rfl, closed⟩ | ⟨goesOn, each⟩⟩, rfl⟩
    · exact ⟨rest, .noMembers opened closed, ended⟩
    · exact ⟨rest, .object opened goesOn each, ended⟩

/-- Whether a key comes once at most in the object that a byte string is. -/
def ComesOnce (key : String) (input : Bytes) : Prop :=
  ∀ standing, standing? input = some standing → (standing.map (·.1)).count key ≤ 1

theorem lookup_eq_none_of_count {α : Type} {members : List (String × α)} {key : String}
    (never : (members.map (·.1)).count key = 0) : members.lookup key = none := by
  rw [List.lookup_eq_none_iff]
  intro m hm
  refine bne_iff_ne.mpr fun same => List.count_eq_zero.mp never ?_
  exact same ▸ List.mem_map_of_mem hm

/-- A member whose key comes once stays under its key when members are put in order. -/
theorem lookup_sorted {members : Members} {key : String}
    (once : (members.map (·.1)).count key ≤ 1) :
    (sorted members).lookup key = members.lookup key := by
  have each : ∀ done : Members,
      (members.foldl (fun done m => insert m.1 m.2 done) done).lookup key =
        (members.lookup key).or (done.lookup key) := by
    induction members with
    | nil => exact fun done => rfl
    | cons m rest ih =>
      obtain ⟨k, v⟩ := m
      intro done
      rw [List.map_cons, List.count_cons] at once
      rw [List.foldl_cons, ih (by omega), lookup_insert, lookup_member]
      by_cases hk : key = k
      · have later : rest.lookup key = none :=
          lookup_eq_none_of_count (by simp [hk] at once ⊢; omega)
        rw [later, if_pos hk, if_pos hk]
        rfl
      · rw [if_neg hk, if_neg hk]
  exact (each []).trans (by simp)

end HostAccess.Json
