import HostAccess.Proofs.JsonProper
import HostAccess.Proofs.Utf8
import HostAccess.Reply
import Mathlib.Data.List.Forall2

/-!
# Refused entries

The entries that a command refused stand in lists, to which members of objects lead. Each of them
has its place, and what is told of a result tells every place once, in the order of the keys.
-/
namespace HostAccess

namespace Json

/-- What keys lead to, one after another. -/
def Value.follow? : List String → Value → Option Value
  | [], v => some v
  | key :: path, v => (v.member? key).bind (follow? path)

end Json

namespace Fault

/-! ## Places -/

/-- The place of an item: the keys that lead to its list, and its number there. -/
structure Place where
  path : List String
  index : Nat

namespace Place

def item? (p : Place) (failed : Json.Value) : Option Json.Value :=
  ((failed.follow? p.path).bind Json.Value.items?).bind (·[p.index]?)

/-- The last of the keys that lead to a place, or `kind` if there is none. -/
def labelFrom (kind : String) (p : Place) : String := p.path.getLast?.getD kind

def label (p : Place) : String := p.labelFrom "member"

/-- Whether a walk that takes keys in the order of their bytes comes to `p` before `q`. -/
def Before (p q : Place) : Prop :=
  List.Lex (fun k l => Utf8.encode k < Utf8.encode l) p.path q.path ∨
    p.path = q.path ∧ p.index < q.index

def under (key : String) (p : Place) : Place := ⟨key :: p.path, p.index⟩

theorem labelFrom_under (kind key : String) (p : Place) :
    (p.under key).labelFrom kind = p.labelFrom key := by
  simp [labelFrom, under, List.getLast?_cons]

theorem item?_under (key : String) (p : Place) (members : Json.Members) :
    (p.under key).item? (.object members) = (members.lookup key).bind p.item? := by
  simp only [item?, under, Json.Value.follow?, Json.Value.member?, Option.bind_assoc]
  cases members.lookup key with
  | none => rfl
  | some v => simp only [item?, Option.bind_some, Option.bind_assoc]

theorem item?_of_mem {members : Json.Members} (inOrder : Json.Ordered members)
    {m : String × Json.Value} (hm : m ∈ members) (p : Place) :
    (p.under m.1).item? (.object members) = p.item? m.2 := by
  rw [item?_under, inOrder.mem_iff_lookup.mp hm, Option.bind_some]

theorem item?_list (path : List String) (n : Nat) (entries : List Json.Value) :
    Place.item? ⟨path, n⟩ (.list entries) = if path = [] then entries[n]? else none := by
  cases path <;> rfl

theorem Before.under {p q : Place} (h : p.Before q) (key : String) :
    (p.under key).Before (q.under key) :=
  h.imp .cons fun ⟨same, earlier⟩ => ⟨congrArg (key :: ·) same, earlier⟩

theorem before_of_lt {k l : String} (h : k < l) (p q : Place) : (p.under k).Before (q.under l) :=
  .inl (.rel (Utf8.encode_lt h))

theorem Before.ne {p q : Place} (h : p.Before q) : p ≠ q := by
  rintro rfl
  obtain before | ⟨-, earlier⟩ := h
  · generalize p.path = path at before
    induction path with
    | nil => cases before
    | cons key path ih =>
      cases before with
      | rel smaller => exact List.lt_irrefl _ smaller
      | cons later => exact ih later
  · exact Nat.lt_irrefl _ earlier

end Place

mutual

/-- The places that there are in a value. -/
def places : Json.Value → List Place
  | .list entries => (List.range entries.length).map (⟨[], ·⟩)
  | .object members => memberPlaces members
  | _ => []

def memberPlaces : Json.Members → List Place
  | [] => []
  | (key, value) :: rest => (places value).map (Place.under key) ++ memberPlaces rest

end

theorem memberPlaces_eq (members : Json.Members) :
    memberPlaces members = members.flatMap fun m => (places m.2).map (Place.under m.1) := by
  induction members with
  | nil => rfl
  | cons m rest ih => rw [memberPlaces, ih, List.flatMap_cons]

theorem memberRefusals_eq (members : Json.Members) :
    memberRefusals members = members.flatMap fun m => refusals m.1 m.2 := by
  induction members with
  | nil => rfl
  | cons m rest ih => rw [memberRefusals, ih, List.flatMap_cons]

/-- What is told of a place. -/
def tell (kind : String) (failed : Json.Value) (p : Place) : Option String :=
  (p.item? failed).map (describeRefusal (p.labelFrom kind))

/-- What a walk of a value does: it comes to each place once, in order, and tells of it. -/
structure Walked (v : Json.Value) : Prop where
  complete : ∀ p, p ∈ places v ↔ (p.item? v).isSome
  inOrder : (places v).Pairwise Place.Before
  told : ∀ kind, (places v).map (tell kind v) = (refusals kind v).map some

theorem walked_list (entries : List Json.Value) : Walked (.list entries) where
  complete := by
    rintro ⟨path, n⟩
    rw [places, List.mem_map, Place.item?_list]
    by_cases top : path = []
    · simp [top]
    · simp [top, Ne.symm top]
  inOrder := by
    rw [places, List.pairwise_map]
    exact List.pairwise_lt_range.imp fun h => .inr ⟨rfl, h⟩
  told kind := by
    have atItem (n : Nat) :
        tell kind (.list entries) ⟨[], n⟩ = entries[n]?.map (describeRefusal kind) := rfl
    rw [refusals, places, List.map_map, List.map_map]
    refine List.ext_getElem (by simp) fun n _ hn => ?_
    have there : n < entries.length := by simpa using hn
    simp [atItem, there]

theorem walked_object {members : Json.Members} (inOrder : Json.Ordered members)
    (each : ∀ m ∈ members, Walked m.2) : Walked (.object members) where
  complete := by
    rintro ⟨path, n⟩
    rw [places, memberPlaces_eq]
    simp only [List.mem_flatMap, List.mem_map]
    constructor
    · rintro ⟨m, hm, p, hp, he⟩
      rw [← he, Place.item?_of_mem inOrder hm]
      exact ((each m hm).complete p).mp hp
    · intro found
      cases path with
      | nil => cases found
      | cons key path =>
        obtain ⟨entry, found⟩ := Option.isSome_iff_exists.mp found
        rw [show (⟨key :: path, n⟩ : Place) = Place.under key ⟨path, n⟩ from rfl,
          Place.item?_under] at found
        obtain ⟨value, there, found⟩ := Option.bind_eq_some_iff.mp found
        have hm : (key, value) ∈ members := inOrder.mem_iff_lookup.mpr there
        exact ⟨(key, value), hm, ⟨path, n⟩,
          ((each _ hm).complete _).mpr (found ▸ rfl), rfl⟩
  inOrder := by
    rw [places, memberPlaces_eq, List.pairwise_flatMap]
    -- Two places below one member are in order there; otherwise the keys of their members decide.
    refine ⟨fun m hm => ?_, inOrder.imp fun {m l} below => ?_⟩
    · exact List.pairwise_map.mpr ((each m hm).inOrder.imp fun h => h.under m.1)
    · intro p hp q hq
      obtain ⟨p, -, rfl⟩ := List.mem_map.mp hp
      obtain ⟨q, -, rfl⟩ := List.mem_map.mp hq
      exact Place.before_of_lt below p q
  told kind := by
    rw [refusals, places, memberPlaces_eq, memberRefusals_eq, List.map_flatMap, List.map_flatMap]
    refine List.flatMap_congr fun m hm => ?_
    rw [← (each m hm).told m.1, List.map_map]
    refine List.map_congr_left fun p _ => ?_
    simp only [tell, Function.comp_apply, Place.item?_of_mem inOrder hm, Place.labelFrom_under]

theorem walked_of_none {v : Json.Value} (nowhere : places v = [])
    (nothing : ∀ p : Place, p.item? v = none) (silent : ∀ kind, refusals kind v = []) :
    Walked v where
  complete p := by simp [nowhere, nothing p]
  inOrder := nowhere ▸ .nil
  told kind := by simp [nowhere, silent kind]

/-- **A walk of a proper value comes to every place once.** -/
theorem walked {v : Json.Value} (h : Json.Proper v) : Walked v := by
  induction h with
  | list each ih => exact walked_list _
  | object inOrder each ih => exact walked_object inOrder ih
  | null | bool | integer | real | text =>
    exact walked_of_none rfl (by rintro ⟨_ | _, _⟩ <;> rfl) fun _ => rfl

/-! ## What is told -/

/-- How an entry is told: by a name and a reason if it is made of them, otherwise as it is. -/
inductive Tells (label : String) : Json.Value → String → Prop
  | named (name reason : String) :
    Tells label (.list [.text name, .text reason]) (label ++ " " ++ name ++ " (" ++ reason ++ ")")
  | other {entry : Json.Value} (form : ∀ name reason, entry ≠ .list [.text name, .text reason]) :
    Tells label entry (label ++ " " ++ entry.render)

theorem tells_describeRefusal (label : String) (entry : Json.Value) :
    Tells label entry (describeRefusal label entry) := by
  unfold describeRefusal
  split
  · exact .named _ _
  · rename_i form
    exact .other form

theorem Walked.tells {v : Json.Value} (h : Walked v) (kind : String) :
    List.Forall₂
      (fun p item => ∃ entry, p.item? v = some entry ∧ Tells (p.labelFrom kind) entry item)
      (places v) (refusals kind v) := by
  have each : List.Forall₂ (fun p item => tell kind v p = some item)
      (places v) (refusals kind v) := by
    refine List.forall₂_map_left_iff.mp (List.forall₂_map_right_iff (f := some).mp ?_)
    rw [h.told kind, List.forall₂_eq_eq_eq]
  refine each.imp fun p item told => ?_
  obtain ⟨entry, there, rfl⟩ := Option.map_eq_some_iff.mp told
  exact ⟨entry, there, tells_describeRefusal _ _⟩

theorem Walked.refusals_eq_nil_iff {v : Json.Value} (h : Walked v) (kind : String) :
    refusals kind v = [] ↔ ∀ p : Place, p.item? v = none := by
  have length := (h.tells kind).length_eq
  rw [← List.length_eq_zero_iff, ← length, List.length_eq_zero_iff, List.eq_nil_iff_forall_not_mem]
  exact forall_congr' fun p => by rw [h.complete p, Option.not_isSome_iff_eq_none]

/-- How many members a result says were added: none if that is no number of 64 bits. -/
def added (result : Json.Value) : Nat :=
  match result.member? "completed" with
  | some (.number (.integer n)) => if 0 ≤ n ∧ n < 0x10000000000000000 then n.toNat else 0
  | _ => 0

theorem natural?_eq_added {result : Json.Value} (proper : Json.Proper result) :
    ((result.member? "completed").bind Json.Value.natural?).getD 0 = added result := by
  unfold added
  cases there : result.member? "completed" with
  | none => rfl
  | some v =>
    cases proper.member there with
    | @integer n low high =>
      simp only [Option.bind_some, Json.Value.natural?, high, and_true]
      split <;> rfl
    | _ => rfl

theorem ofResult?_eq {result failed : Json.Value} (proper : Json.Proper result)
    (there : result.member? "failed" = some failed) :
    ofResult? result =
      if refusals "member" failed = [] then none
      else some ⟨0, none, toString (added result) ++ " members added, rejected: " ++
        Text.joinWith ", " (refusals "member" failed)⟩ := by
  unfold ofResult?
  simp only [there, natural?_eq_added proper, Option.bind_eq_bind, Option.bind_some,
    List.isEmpty_iff]

theorem ofResult?_eq_none_iff {result : Json.Value} (proper : Json.Proper result) :
    ofResult? result = none ↔
      ∀ failed, result.member? "failed" = some failed → ∀ p : Place, p.item? failed = none := by
  cases there : result.member? "failed" with
  | none => simp [ofResult?, there]
  | some failed =>
    have walk := walked (proper.member there)
    simp [ofResult?_eq proper there, ← walk.refusals_eq_nil_iff "member"]

/-- **Every refused entry is told once, in order.** -/
theorem ofResult?_tells_each_once {result : Json.Value} (proper : Json.Proper result) :
    (ofResult? result = none ↔
      ∀ failed, result.member? "failed" = some failed → ∀ p : Place, p.item? failed = none) ∧
    ∀ failed, result.member? "failed" = some failed → (∃ p : Place, p.item? failed ≠ none) →
      ∃ (told : List Place) (items : List String),
        (∀ p, p ∈ told ↔ p.item? failed ≠ none) ∧ told.Pairwise Place.Before ∧ told.Nodup ∧
        List.Forall₂
          (fun p item => ∃ entry, p.item? failed = some entry ∧ Tells p.label entry item)
          told items ∧
        ofResult? result = some ⟨0, none, toString (added result) ++ " members added, rejected: " ++
          Text.joinWith ", " items⟩ := by
  refine ⟨ofResult?_eq_none_iff proper, fun failed there ⟨p, hp⟩ => ?_⟩
  have walk := walked (proper.member there)
  have refused : refusals "member" failed ≠ [] := fun silent =>
    hp ((walk.refusals_eq_nil_iff "member").mp silent p)
  refine ⟨places failed, refusals "member" failed, fun p => ?_, walk.inOrder,
    walk.inOrder.imp Place.Before.ne, walk.tells "member", ?_⟩
  · rw [walk.complete p, Option.isSome_iff_ne_none]
  · rw [ofResult?_eq proper there, if_neg refused]

example :
    (ofResult? (.object [("completed", .number (.integer 1)), ("failed", .object [("member", .object
      [("group", .list [.number (.integer 7)]),
        ("user", .list [.list [.text "alice", .text "no such entry"]])])])])).map (·.message) =
      some "1 members added, rejected: group 7, user alice (no such entry)" := by
  decide +kernel

theorem ofResult?_tells_below_members :
    let groups : Json.Value := .list [.number (.integer 7)]
    let users : Json.Value := .list [.list [.text "alice", .text "no such entry"]]
    let failed : Json.Value := .object [("member", .object [("group", groups), ("user", users)])]
    let result : Json.Value := .object [("completed", .number (.integer 1)), ("failed", failed)]
    Json.Proper result ∧ ∃ (told : List Place) (items : List String),
      (∀ p, p ∈ told ↔ p.item? failed ≠ none) ∧ ⟨["member", "user"], 0⟩ ∈ told ∧
        ofResult? result = some ⟨0, none, "1 members added, rejected: " ++
          Text.joinWith ", " items⟩ := by
  intro groups users failed result
  have members : Json.Proper (.object [("group", groups), ("user", users)]) := by
    refine .object (List.pairwise_pair.mpr (by decide)) fun m hm => ?_
    obtain rfl | hm := List.mem_cons.mp hm
    · exact .list (by simpa using .integer (by decide) (by decide))
    · obtain rfl := List.mem_singleton.mp hm
      refine .list fun v hv => ?_
      obtain rfl := List.mem_singleton.mp hv
      exact .list (by simp [Json.Proper.text])
  have proper : Json.Proper result := by
    refine .object (List.pairwise_pair.mpr (by decide)) fun m hm => ?_
    obtain rfl | hm := List.mem_cons.mp hm
    · exact .integer (by decide) (by decide)
    · obtain rfl := List.mem_singleton.mp hm
      exact .object (List.pairwise_singleton _ _) (by simpa using members)
  have there : (⟨["member", "user"], 0⟩ : Place).item? failed ≠ none := nofun
  obtain ⟨told, items, exact, -, -, -, said⟩ :=
    (ofResult?_tells_each_once proper).2 failed rfl ⟨_, there⟩
  have counted : toString (added result) ++ " members added, rejected: " =
      "1 members added, rejected: " := by decide
  exact ⟨proper, told, items, exact, (exact _).mpr there, counted ▸ said⟩

end Fault

end HostAccess
