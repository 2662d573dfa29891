import HostAccess.Proofs.Objects
import HostAccess.Proofs.SetupErrors

/-!
# Members on the wire

Members are given one after another, by their own names or as groups. An operation that adds them
tells the server each sort under its key, in the order in which it was given; how the two sorts
alternate makes no difference. What cannot be told is refused before anything is sent.
-/
namespace HostAccess

variable {ν : Type}

/-! ## Members as they are given -/

namespace Members

inductive Given where
  | direct (name : String)
  | group (name : String)

namespace Given

def direct? : Given → Option String
  | .direct name => some name
  | .group _ => none

def group? : Given → Option String
  | .direct _ => none
  | .group name => some name

end Given

def give (m : Members) : Given → Members
  | .direct name => m.andDirect name
  | .group name => m.andGroup name

def ofGiven (given : List Given) : Members := given.foldl give empty

/-- What is given is kept in order, each sort for itself. -/
theorem ofGiven_eq (given : List Given) :
    ofGiven given = ⟨given.filterMap Given.direct?, given.filterMap Given.group?⟩ := by
  have each : ∀ m : Members, given.foldl give m =
      ⟨m.direct ++ given.filterMap Given.direct?, m.groups ++ given.filterMap Given.group?⟩ := by
    induction given with
    | nil => simp
    | cons first rest ih =>
      intro m
      rw [List.foldl_cons, ih]
      cases first with
      | direct name => simp [give, andDirect, List.filterMap_cons, Given.direct?, Given.group?]
      | group name => simp [give, andGroup, List.filterMap_cons, Given.direct?, Given.group?]
  exact each empty

/-! ## What members are told as -/

/-- Whether members cannot be told: there are none, or there are groups and no key for them. -/
def Untold (members : Members) (groupKey : Option String) : Prop :=
  members = empty ∨ groupKey = none ∧ members.groups ≠ []

theorem isEmpty_iff (members : Members) : members.isEmpty = true ↔ members = empty := by
  obtain ⟨direct, groups⟩ := members
  simp [isEmpty, empty]

section

variable {members : Members} (directKey : String) {groupKey : Option String}

theorem options_of_untold (untold : members.Untold groupKey) :
    ∃ cause, members.options directKey groupKey = .error cause := by
  unfold options
  split
  · exact ⟨_, rfl⟩
  · rename_i some
    obtain none | ⟨rfl, groups⟩ := untold
    · exact absurd ((isEmpty_iff members).mpr none) some
    · exact ⟨_, if_neg (by simpa using groups)⟩

theorem options_of_not_untold (told : ¬members.Untold groupKey) :
    ∃ options, members.options directKey groupKey = .ok options := by
  obtain ⟨some, nested⟩ := not_or.mp told
  unfold options
  rw [if_neg (mt (isEmpty_iff members).mp some)]
  cases groupKey with
  | some key => exact ⟨_, rfl⟩
  | none => exact ⟨_, if_pos (by simpa using nested)⟩

end

theorem lookup_options {members : Members} {directKey : String} {groupKey : Option String}
    {options : Json.Members} (h : members.options directKey groupKey = .ok options)
    (apart : groupKey ≠ some directKey) (key : String) :
    options.lookup key =
      if members.direct ≠ [] ∧ key = directKey then some (Json.Value.texts members.direct)
      else if members.groups ≠ [] ∧ groupKey = some key then some (Json.Value.texts members.groups)
      else none := by
  rw [options_eq_ok h]
  cases groupKey with
  | none => simp [lookup_entry]
  | some groupKey =>
    simp only [lookup_entry, List.lookup_nil, Option.some.injEq, eq_comm (a := groupKey)]
    by_cases direct : members.direct ≠ [] ∧ key = directKey
    · have other : key ≠ groupKey := fun same => apart (congrArg some (same.symm.trans direct.2))
      rw [if_neg fun h => other h.2, if_pos direct, if_pos direct]
    · rw [if_neg direct, if_neg direct]

end Members

open Members (Given)

namespace Object

/-- The arguments that tell members: each sort that was given under its key, and nothing else. -/
structure Tells (directKey : String) (groupKey? : Option String) (directs groups : List String)
    (options : Json.Members) : Prop where
  inOrder : Json.Ordered options
  lookup : ∀ key, options.lookup key =
    if directs ≠ [] ∧ key = directKey then some (Json.Value.texts directs)
    else if groups ≠ [] ∧ groupKey? = some key then some (Json.Value.texts groups)
    else none

/-- Whether no member was given, or a group where there is no key for groups. -/
def Refused (groupKey? : Option String) (given : List Given) : Prop :=
  given = [] ∨ groupKey? = none ∧ ∃ name, Given.group name ∈ given

/-- Whether objects of a kind are created and removed by these two commands. -/
def Managed (c : Client ν) (kind : Kind) (add del : String) (options : String → Json.Members) : Prop :=
  ∀ name, c.Posts (Object.add c ⟨kind, name⟩) (telling add name (options name)) ∧
    c.Posts (Object.remove c ⟨kind, name⟩) (telling del name [])

/-- Whether members are added by this command, under these keys, and go by what `call` makes of their
names. What is refused is refused before anything is done. -/
def Joined (c : Client ν) (m : Membership) (method directKey : String) (groupKey? : Option String)
    (call : String → String) : Prop :=
  ∀ (name : String) (given : List Given),
    (Refused groupKey? given → ∀ w, ∃ cause,
      addMembers c m name (.ofGiven given) w = (.failed (.usage cause), w)) ∧
    (¬Refused groupKey? given →
      (∀ w cause, (addMembers c m name (.ofGiven given) w).1 ≠ .failed (.usage cause)) ∧
      ∃ options, Tells directKey groupKey? ((given.filterMap Given.direct?).map call)
          (given.filterMap Given.group?) options ∧
        c.Posts (addMembers c m name (.ofGiven given)) (telling method name options)) ∧
    ∀ others : List Given, others.filterMap Given.direct? = given.filterMap Given.direct? →
      others.filterMap Given.group? = given.filterMap Given.group? →
      addMembers c m name (.ofGiven others) = addMembers c m name (.ofGiven given)

/-- What the members of a membership are called when the server is told of them. -/
def callOf (server : Identity) (m : Membership) : String → String :=
  if m.isOfHosts then server.qualify else id

theorem told_ofGiven (server : Identity) (m : Membership) (given : List Given) :
    told server m (.ofGiven given) =
      ⟨(given.filterMap Given.direct?).map (callOf server m), given.filterMap Given.group?⟩ := by
  rw [Members.ofGiven_eq, told, callOf]
  split
  · rfl
  · rw [List.map_id]

theorem untold_iff (server : Identity) (m : Membership) (given : List Given) :
    (told server m (.ofGiven given)).Untold m.groupKey? ↔ Refused m.groupKey? given := by
  rw [told_ofGiven]
  refine or_congr ?_ (and_congr_right fun _ => ?_)
  · rw [Members.empty, Members.mk.injEq, List.map_eq_nil_iff]
    constructor
    · rintro ⟨direct, groups⟩
      cases given with
      | nil => rfl
      | cons first rest =>
        cases first with
        | direct name => cases direct
        | group name => cases groups
    · rintro rfl
      simp
  · constructor
    · intro some
      obtain ⟨name, hn⟩ := List.exists_mem_of_ne_nil _ some
      obtain ⟨first, hf, he⟩ := List.mem_filterMap.mp hn
      cases first with
      | direct => cases he
      | group other => exact ⟨other, hf⟩
    · rintro ⟨name, hn⟩
      exact List.ne_nil_of_mem (List.mem_filterMap.mpr ⟨_, hn, rfl⟩)

theorem groupKey_ne_directKey (m : Membership) : m.groupKey? ≠ some m.directKey := by
  cases m <;> decide

/-! ## What is posted -/

theorem managed (c : Client ν) (kind : Kind) :
    Managed c kind (method kind "add") (method kind "del") kind.addOptions := fun name =>
  ⟨posts_add c ⟨kind, name⟩, posts_remove c ⟨kind, name⟩⟩

theorem joined (c : Client ν) (m : Membership) :
    Joined c m (method m.kind m.action) m.directKey m.groupKey? (callOf c.identity m) := by
  refine fun name given => ⟨fun refused w => ?_, fun accepted => ?_, fun others direct groups => ?_⟩
  · obtain ⟨cause, h⟩ :=
      Members.options_of_untold m.directKey ((untold_iff c.identity m given).mpr refused)
    exact ⟨cause, by rw [addMembers_eq, h]; rfl⟩
  · obtain ⟨options, h⟩ := Members.options_of_not_untold m.directKey
      (mt (untold_iff c.identity m given).mp accepted)
    refine ⟨fun w cause failed => ?_, options,
      ⟨(Members.areTexts_options h).inOrder, fun key => ?_⟩, posts_addMembers c m name h⟩
    · rw [addMembers_eq, h] at failed
      cases run_isPastSetup c _ _ _ _ w _ _ (Prod.ext failed rfl)
    · rw [Members.lookup_options h (groupKey_ne_directKey m), told_ofGiven]
  · rw [Members.ofGiven_eq, Members.ofGiven_eq, direct, groups]

/-- **Operations tell exactly what they are given.** Each command goes by the kind of the object and
the action. Only hosts go by another name than the one given, and groups of services take no groups. -/
theorem operations_tell (c : Client ν) :
    (Managed c .host "host_add" "host_del" (fun _ => [("force", .bool true)]) ∧
      Managed c .user "user_add" "user_del"
        (fun name => [("givenname", .text "HBAC"), ("sn", .text name)]) ∧
      Managed c .hostGroup "hostgroup_add" "hostgroup_del" (fun _ => []) ∧
      Managed c .userGroup "group_add" "group_del" (fun _ => []) ∧
      Managed c .serviceGroup "hbacsvcgroup_add" "hbacsvcgroup_del" (fun _ => []) ∧
      Managed c .rule "hbacrule_add" "hbacrule_del" (fun _ => [])) ∧
    (∀ name, c.Posts (enable c name) (telling "hbacrule_enable" name []) ∧
      c.Posts (disable c name) (telling "hbacrule_disable" name [])) ∧
    Joined c .hostInGroup "hostgroup_add_member" "host" (some "hostgroup") c.identity.qualify ∧
    Joined c .userInGroup "group_add_member" "user" (some "group") id ∧
    Joined c .serviceInGroup "hbacsvcgroup_add_member" "hbacsvc" none id ∧
    Joined c .userOfRule "hbacrule_add_user" "user" (some "group") id ∧
    Joined c .hostOfRule "hbacrule_add_host" "host" (some "hostgroup") c.identity.qualify ∧
    Joined c .serviceOfRule "hbacrule_add_service" "hbacsvc" (some "hbacsvcgroup") id := by
  refine ⟨⟨managed c .host, managed c .user, managed c .hostGroup, managed c .userGroup,
    managed c .serviceGroup, managed c .rule⟩, fun name => ⟨?_, ?_⟩, joined c .hostInGroup,
    joined c .userInGroup, joined c .serviceInGroup, joined c .userOfRule, joined c .hostOfRule,
    joined c .serviceOfRule⟩
  · exact posts_run c .rule "enable" name (Members.areTexts_nil.plain _)
  · exact posts_run c .rule "disable" name (Members.areTexts_nil.plain _)

end Object

end HostAccess
