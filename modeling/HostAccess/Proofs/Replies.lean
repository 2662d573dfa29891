import HostAccess.Proofs.JsonSkim
import HostAccess.Proofs.Refusals

/-!
# What a reply decodes to

An object reports a fault if it has an error, and otherwise if its result has a refused entry. Of what
is no object only a short list is read: its items stand for the error and the result. A reply is a
success if its status is that of one and it has no fault.
-/
namespace HostAccess

namespace Fault

/-! ## The fields of an error -/

/-- What a field says: what its value does, or a default if it is absent. -/
inductive Field {α : Type} (Means : Json.Value → α → Prop) (default : α) :
    Option Json.Value → α → Prop
  | absent : Field Means default none default
  | given {v : Json.Value} {a : α} (means : Means v a) : Field Means default (some v) a

inductive MeansCode : Json.Value → Nat → Prop
  | integer {n : Nat} (range : n < 0x100000000) : MeansCode (.number (.integer n)) n

inductive MeansName : Json.Value → Option String → Prop
  | null : MeansName .null none
  | text (s : String) : MeansName (.text s) (some s)

inductive MeansMessage : Json.Value → String → Prop
  | text (s : String) : MeansMessage (.text s) s

/-- Whether the members of an error are the fields of a fault. -/
structure Fields (error : Json.Members) (f : Fault) : Prop where
  code : Field MeansCode 0 (error.lookup "code") f.code
  name : Field MeansName none (error.lookup "name") f.name
  message : Field MeansMessage "" (error.lookup "message") f.message

theorem readCode_eq_some_iff {v : Json.Value} {n : Nat} : readCode v = some n ↔ MeansCode v n := by
  constructor
  · intro h
    obtain ⟨found, small⟩ := Option.filter_eq_some_iff.mp h
    unfold Json.Value.natural? at found
    split at found
    · rename_i m
      obtain ⟨positive, he⟩ := Option.ite_none_right_eq_some.mp found
      obtain rfl := Option.some.inj he
      rw [← Int.toNat_of_nonneg positive]
      exact .integer (of_decide_eq_true small)
    · cases found
  · rintro ⟨range⟩
    exact Option.filter_eq_some_iff.mpr ⟨by simp [Json.Value.natural?], decide_eq_true range⟩

theorem readName_eq_some_iff {v : Json.Value} {name : Option String} :
    readName v = some name ↔ MeansName v name := by
  constructor
  · intro h
    cases v with
    | null => exact Option.some.inj h ▸ .null
    | text s => exact Option.some.inj h ▸ .text s
    | _ => cases h
  · rintro (_ | _) <;> rfl

theorem readMessage_eq_some_iff {v : Json.Value} {message : String} :
    readMessage v = some message ↔ MeansMessage v message := by
  constructor
  · intro h
    cases v with
    | text s => exact Option.some.inj h ▸ .text s
    | _ => cases h
  · rintro ⟨⟩
    rfl

theorem field_eq_some_iff {α : Type} {read : Json.Value → Option α} {Means : Json.Value → α → Prop}
    (reads : ∀ {v a}, read v = some a ↔ Means v a) {default a : α} {v : Option Json.Value} :
    field read default v = some a ↔ Field Means default v a := by
  cases v with
  | none => exact ⟨fun h => Option.some.inj h ▸ .absent, fun h => by cases h; rfl⟩
  | some v => exact ⟨fun h => .given (reads.mp h), fun (.given means) => reads.mpr means⟩

theorem read?_object {error : Json.Members} {f : Fault} :
    read? (.object error) = some f ↔ Fields error f := by
  obtain ⟨code, name, message⟩ := f
  simp only [read?, ofFields, Option.bind_eq_bind, Option.bind_eq_some_iff, Option.pure_def,
    Option.some.injEq, Fault.mk.injEq]
  constructor
  · rintro ⟨c, hc, n, hn, m, hm, rfl, rfl, rfl⟩
    exact ⟨(field_eq_some_iff readCode_eq_some_iff).mp hc,
      (field_eq_some_iff readName_eq_some_iff).mp hn,
      (field_eq_some_iff readMessage_eq_some_iff).mp hm⟩
  · rintro ⟨hc, hn, hm⟩
    exact ⟨_, (field_eq_some_iff readCode_eq_some_iff).mpr hc, _,
      (field_eq_some_iff readName_eq_some_iff).mpr hn, _,
      (field_eq_some_iff readMessage_eq_some_iff).mpr hm, rfl, rfl, rfl⟩

theorem ofError_of_fields {error : Json.Members} {f : Fault} (h : Fields error f) :
    ofError (.object error) = f := by
  rw [ofError, read?_object.mpr h, Option.getD_some]

theorem ofError_of_other {error : Json.Value} (noList : ∀ items, error ≠ .list items)
    (noFields : ∀ members f, error = .object members → ¬Fields members f) :
    ofError error = ⟨0, none, error.render⟩ := by
  have unread : read? error = none := by
    cases error with
    | object members =>
      refine Option.eq_none_iff_forall_ne_some.mpr fun f h => ?_
      exact noFields members f rfl (read?_object.mp h)
    | list items => exact absurd rfl (noList items)
    | _ => rfl
  rw [ofError, unread, Option.getD_none]

end Fault

namespace Reply

open Json.Skim (present IsObject not_isObject_of_head)

/-! ## Errors and results -/

theorem present_eq_some_iff {v w : Json.Value} : present v = some w ↔ v = w ∧ v ≠ .null := by
  unfold present
  split
  · simp
  · rename_i given
    simp only [Option.some.injEq, ne_eq, iff_self_and]
    rintro rfl
    exact given

theorem present_bind_ofResult? (v : Json.Value) :
    (present v).bind Fault.ofResult? = Fault.ofResult? v := by
  unfold present
  split <;> rfl

def HasError (error : Option Json.Value) : Prop := ∃ v, error = some v ∧ v ≠ .null

/-- Whether a result has a refused entry. -/
def HasRefusal (result : Option Json.Value) : Prop :=
  ∃ v failed, result = some v ∧ v.member? "failed" = some failed ∧
    ∃ p : Fault.Place, p.item? failed ≠ none

/-- The fault that an error and a result report. -/
def reported? (error result : Option Json.Value) : Option Fault :=
  match error.bind present with
  | some error => some (Fault.ofError error)
  | none => result.bind Fault.ofResult?

theorem faultOf_eq_reported? {body : Bytes} {error result : Option Json.Value}
    {found : Json.Skim.Found} (read : Json.Skim.read ["error", "result"] body = some found)
    (hError : found.lookup "error" = error.map present)
    (hResult : found.lookup "result" = result.map present) :
    faultOf body = reported? error result := by
  have same : (result.map present).join.bind Fault.ofResult? = result.bind Fault.ofResult? := by
    cases result with
    | none => rfl
    | some v => exact present_bind_ofResult? v
  rw [faultOf, read]
  dsimp only
  rw [hError, hResult, same]
  cases error <;> rfl

theorem reported?_of_error {v : Json.Value} (given : v ≠ .null) (result : Option Json.Value) :
    reported? (some v) result = some (Fault.ofError v) := by
  rw [reported?, Option.bind_some, present_eq_some_iff.mpr ⟨rfl, given⟩]

theorem reported?_ne_none_iff {error result : Option Json.Value}
    (proper : ∀ v, result = some v → Json.Proper v) :
    reported? error result ≠ none ↔ HasError error ∨ ¬HasError error ∧ HasRefusal result := by
  by_cases wrong : HasError error
  · obtain ⟨v, rfl, given⟩ := wrong
    simp only [reported?_of_error given, ne_eq, reduceCtorEq, not_false_eq_true, true_iff]
    exact .inl ⟨v, rfl, given⟩
  · have unread : error.bind present = none := by
      refine Option.eq_none_iff_forall_ne_some.mpr fun w h => wrong ?_
      obtain ⟨v, there, he⟩ := Option.bind_eq_some_iff.mp h
      exact ⟨v, there, (present_eq_some_iff.mp he).2⟩
    have refused : result.bind Fault.ofResult? ≠ none ↔ HasRefusal result := by
      unfold HasRefusal
      cases result with
      | none => simp
      | some v => simp [Fault.ofResult?_eq_none_iff (proper v rfl)]
    rw [reported?, unread, refused]
    simp [wrong]

/-! ## Objects and lists -/

theorem faultOf_object {body : Bytes} {members : Json.Members}
    (object : Json.read body = some (.object members)) (onceError : Json.ComesOnce "error" body)
    (onceResult : Json.ComesOnce "result" body) :
    faultOf body = reported? (members.lookup "error") (members.lookup "result") := by
  obtain ⟨standing, there, rfl⟩ := Json.read_eq_object_iff.mp object
  have once : ∀ key ∈ ["error", "result"], (standing.map (·.1)).count key ≤ 1 := by
    simpa using ⟨onceError standing there, onceResult standing there⟩
  obtain ⟨found, read, each⟩ := Json.Skim.read_of_standing there once
  rw [Json.lookup_sorted (onceError _ there), Json.lookup_sorted (onceResult _ there)]
  exact faultOf_eq_reported? read (each "error" (by simp)) (each "result" (by simp))

theorem faultOf_list {body : Bytes} {items : List Json.Value}
    (list : Json.read body = some (.list items)) (short : items.length ≤ 2) :
    faultOf body = reported? items[0]? items[1]? := by
  have other : ¬IsObject body := by simp [Json.Skim.isObject_iff_of_read list]
  have read : Json.Skim.read ["error", "result"] body = some _ :=
    (Json.Skim.read_eq_some_of_not_isObject other).mpr ⟨items, list, short, rfl⟩
  refine faultOf_eq_reported? read ?_ ?_
  · cases items <;> rfl
  · obtain _ | ⟨error, _ | ⟨result, rest⟩⟩ := items <;> rfl

section

variable {body : Bytes} (other : ¬IsObject body)

include other

theorem faultOf_other (noList : ∀ items, Json.read body = some (.list items) → 2 < items.length) :
    faultOf body = none := by
  have unread : Json.Skim.read ["error", "result"] body = none := by
    refine Option.eq_none_iff_forall_ne_some.mpr fun found h => ?_
    obtain ⟨items, list, short, -⟩ := (Json.Skim.read_eq_some_of_not_isObject other).mp h
    exact absurd (noList items list) (Nat.not_lt.mpr short)
  rw [faultOf, unread]

theorem faultOf_ne_none_iff_of_not_isObject :
    faultOf body ≠ none ↔ ∃ items, Json.read body = some (.list items) ∧ items.length ≤ 2 ∧
      (HasError items[0]? ∨ ¬HasError items[0]? ∧ HasRefusal items[1]?) := by
  by_cases list : ∃ items, Json.read body = some (.list items) ∧ items.length ≤ 2
  · obtain ⟨items, list, short⟩ := list
    have each : ∀ v, items[1]? = some v → Json.Proper v := fun v there => by
      cases Json.proper_of_read list with
      | list each => exact each v (List.mem_of_getElem? there)
    rw [faultOf_list list short, reported?_ne_none_iff each]
    simp [list, short]
  · rw [faultOf_other other fun items read => Nat.not_le.mp fun short => list ⟨items, read, short⟩]
    exact iff_of_false (fun wrong => wrong rfl)
      fun ⟨items, read, short, _⟩ => list ⟨items, read, short⟩

end

/-! ## Checks -/

/-- What is reported of a reply that is no success: the code of its fault if it has one, and what
the fault says. -/
structure Reports (r : Reply) (status : Nat) (message : String) : Prop where
  silent : r.fault = none → status = r.status ∧ message = "unexpected HTTP status"
  coded : ∀ f, r.fault = some f → f.code ≠ 0 → status = f.code
  uncoded : ∀ f, r.fault = some f → f.code = 0 → status = r.status
  named : ∀ f name, r.fault = some f → f.name = some name → message = name ++ ": " ++ f.message
  unnamed : ∀ f, r.fault = some f → f.name = none → message = f.message

theorem reports (r : Reply) : r.Reports r.report.1 r.report.2 := by
  obtain ⟨status, fault⟩ := r
  cases fault with
  | none => exact ⟨fun _ => ⟨rfl, rfl⟩, nofun, nofun, nofun, nofun⟩
  | some f =>
    refine ⟨nofun, ?_, ?_, ?_, ?_⟩
    · rintro _ ⟨⟩ coded
      exact if_neg coded
    · rintro _ ⟨⟩ uncoded
      exact if_pos uncoded
    · rintro _ name ⟨⟩ named
      simp [report, named]
    · rintro _ ⟨⟩ unnamed
      simp [report, unnamed]

theorem isSuccess_iff (r : Reply) :
    r.isSuccess = true ↔ (200 ≤ r.status ∧ r.status < 300) ∧ r.fault = none := by
  simp [isSuccess, Http.isSuccess]

/-- What a check says of a reply: nothing if it is a success, otherwise what the reply reports. -/
structure Checked (r : Reply) (method : String) : Prop where
  accepted : r.check method = .ok () ↔ (200 ≤ r.status ∧ r.status < 300) ∧ r.fault = none
  refused : r.check method ≠ .ok () → ∃ status message,
    r.check method = .error (.remote method status message) ∧ r.Reports status message

theorem checked (r : Reply) (method : String) : r.Checked method := by
  constructor
  · rw [← isSuccess_iff, check]
    split
    · rename_i success
      simp [success]
    · rename_i failure
      simp [failure]
  · intro refused
    unfold check at refused ⊢
    split at refused
    · exact absurd rfl refused
    · rename_i failure
      exact ⟨_, _, if_neg failure, r.reports⟩

/-! ## What is decoded -/

/-- What an object decodes to. An error that is not of the form of a fault is told as it is. -/
structure Decoded (members : Json.Members) (status : Nat) (r : Reply) : Prop where
  status : r.status = status
  faulty : r.fault ≠ none ↔ HasError (members.lookup "error") ∨
    ¬HasError (members.lookup "error") ∧ HasRefusal (members.lookup "result")
  fields : ∀ error f, members.lookup "error" = some (.object error) → Fault.Fields error f →
    r.fault = some f
  other : ∀ error, members.lookup "error" = some error → error ≠ .null →
    (∀ items, error ≠ .list items) →
    (∀ fields f, error = .object fields → ¬Fault.Fields fields f) →
    r.fault = some ⟨0, none, error.render⟩

/-- **An object decodes to what it reports, and only a reply that reports nothing is a success.** -/
theorem object_decoded {body : Bytes} {members : Json.Members}
    (object : Json.read body = some (.object members)) (onceError : Json.ComesOnce "error" body)
    (onceResult : Json.ComesOnce "result" body) (status : Nat) :
    Decoded members status (ofBody status body) ∧
      ∀ (r : Reply) (method : String), r.Checked method := by
  have fault : (ofBody status body).fault = _ := faultOf_object object onceError onceResult
  have proper := Json.proper_of_read object
  refine ⟨⟨rfl, ?_, fun error f there fields => ?_, fun error there given noList noFields => ?_⟩,
    checked⟩
  · rw [fault]
    exact reported?_ne_none_iff fun v there => proper.member there
  · have given : Json.Value.object error ≠ .null := nofun
    rw [fault, there, reported?_of_error given, Fault.ofError_of_fields fields]
  · rw [fault, there, reported?_of_error given, Fault.ofError_of_other noList noFields]

theorem object_decoded_text_error :
    let members : Json.Members := [("error", .text "denied")]
    let body := Utf8.encode (Json.Value.object members).render
    Json.read body = some (.object members) ∧ Json.ComesOnce "error" body ∧
      Json.ComesOnce "result" body ∧ (ofBody 200 body).fault = some ⟨0, none, "\"denied\""⟩ ∧
      (ofBody 200 body).check "ping" = .error (.remote "ping" 200 "\"denied\"") := by
  intro members body
  have object : Json.read body = some (.object members) :=
    Json.read_render (.object rfl (by simp [members, Json.Plain.text]))
  have keys : (Json.standing? body).map (·.map (·.1)) = some ["error"] := by decide +kernel
  have once (key : String) (short : ["error"].count key ≤ 1) : Json.ComesOnce key body := by
    intro standing there
    rw [there, Option.map_some, Option.some.injEq] at keys
    rwa [keys]
  have onceError : Json.ComesOnce "error" body := once _ (by decide)
  have onceResult : Json.ComesOnce "result" body := once _ (by decide)
  obtain ⟨decoded, each⟩ := object_decoded object onceError onceResult 200
  have fault : (ofBody 200 body).fault = some ⟨0, none, "\"denied\""⟩ :=
    decoded.other (.text "denied") rfl nofun nofun nofun
  refine ⟨object, onceError, onceResult, fault, ?_⟩
  have failed : (ofBody 200 body).check "ping" ≠ .ok () := fun ok => by
    simpa [fault] using ((each _ "ping").accepted.mp ok).2
  obtain ⟨status, message, refused, reports⟩ := (each _ "ping").refused failed
  obtain rfl := reports.uncoded _ fault rfl
  obtain rfl := reports.unnamed _ fault rfl
  exact refused

/-- **What is no object reports a fault only as a short list, and otherwise the status decides.** -/
theorem no_object_decoded {body : Bytes} (other : ¬IsObject body) (status : Nat) :
    ((ofBody status body).fault ≠ none ↔
      ∃ items, Json.read body = some (.list items) ∧ items.length ≤ 2 ∧
        (HasError items[0]? ∨ ¬HasError items[0]? ∧ HasRefusal items[1]?)) ∧
    ((ofBody status body).fault = none →
      ((ofBody status body).isSuccess = true ↔ 200 ≤ status ∧ status < 300)) := by
  refine ⟨faultOf_ne_none_iff_of_not_isObject other, fun silent => ?_⟩
  rw [isSuccess_iff, and_iff_left silent]
  rfl

theorem no_object_decoded_words :
    let body := Utf8.encode "no such page"
    ¬IsObject body ∧ (ofBody 200 body).fault = none ∧ (ofBody 200 body).isSuccess = true := by
  intro body
  have other : ¬IsObject body := not_isObject_of_head (by decide)
  have unread : (Json.read body).isNone = true := by decide +kernel
  obtain ⟨faulty, status⟩ := no_object_decoded other 200
  have silent : (ofBody 200 body).fault = none := by
    refine Decidable.byContradiction fun wrong => ?_
    obtain ⟨items, read, -⟩ := faulty.mp wrong
    simp [read] at unread
  exact ⟨other, silent, (status silent).mpr (by decide)⟩

/-- A list of one text is no object, and yet it reports a fault. -/
theorem list_reports_fault :
    ¬∀ (status : Nat) (body : Bytes), ¬IsObject body →
      (ofBody status body).fault = none ∧
        ((ofBody status body).isSuccess = true ↔ 200 ≤ status ∧ status < 300) := by
  intro silent
  have other : ¬IsObject (Utf8.encode "[\"x\"]") := not_isObject_of_head (by decide)
  exact absurd (silent 200 _ other).1 (by decide +kernel)

end Reply

end HostAccess
