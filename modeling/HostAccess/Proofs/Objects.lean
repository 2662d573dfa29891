import HostAccess.Object
import HostAccess.Proofs.CommandBody
import HostAccess.Proofs.Directory
import HostAccess.Proofs.JsonMembers
import HostAccess.Proofs.SessionProtocol

/-!
# What operations on objects say

An operation on an object of the directory is one command, and what the server reads of it names the
object, the action and the members. A line that is written down first makes no difference to it.
-/
namespace HostAccess

variable {ν : Type}

/-! ## Members as arguments -/

namespace Members

theorem lookup_entry (key : String) (names : List String) (options : Json.Members) (k : String) :
    (entry key names options).lookup k =
      if names ≠ [] ∧ k = key then some (Json.Value.texts names) else options.lookup k := by
  unfold entry
  cases names with
  | nil => simp
  | cons name rest => simp [Json.lookup_insert]

/-- Members that can be told to the server: keys in order, and nothing but texts under them. -/
structure AreTexts (options : Json.Members) : Prop where
  inOrder : Json.Ordered options
  texts : ∀ m ∈ options, ∃ names, m.2 = Json.Value.texts names

theorem areTexts_nil : AreTexts [] := ⟨List.Pairwise.nil, by simp⟩

theorem AreTexts.entry {options : Json.Members} (h : AreTexts options) (key : String)
    (names : List String) : AreTexts (entry key names options) := by
  unfold Members.entry
  split
  · exact h
  · refine ⟨h.inOrder.insert key _, fun m hm => ?_⟩
    obtain rfl | hm := Json.mem_insert hm
    · exact ⟨names, rfl⟩
    · exact h.texts m hm

theorem AreTexts.plain {options : Json.Members} (h : AreTexts options) (depth : Nat) :
    Json.Plain (depth + 2) (.object options) := by
  refine .object (Json.sorted_of_ordered h.inOrder) fun m hm => ?_
  obtain ⟨names, he⟩ := h.texts m hm
  rw [he]
  refine .list fun v hv => ?_
  obtain ⟨name, -, rfl⟩ := List.mem_map.mp hv
  exact .text name

/-- What the arguments of a command are made of. -/
theorem options_eq_ok {members : Members} {directKey : String} {groupKey : Option String}
    {options : Json.Members} (h : members.options directKey groupKey = .ok options) :
    options = match groupKey with
      | some key => entry key members.groups (entry directKey members.direct [])
      | none => entry directKey members.direct [] := by
  unfold Members.options at h
  split at h
  · cases h
  · cases groupKey with
    | some key => exact (Except.ok.inj h).symm
    | none =>
      simp only at h
      split at h
      · exact (Except.ok.inj h).symm
      · cases h

theorem areTexts_options {members : Members} {directKey : String} {groupKey : Option String}
    {options : Json.Members} (h : members.options directKey groupKey = .ok options) :
    AreTexts options := by
  rw [options_eq_ok h]
  cases groupKey with
  | some key => exact (areTexts_nil.entry _ _).entry _ _
  | none => exact areTexts_nil.entry _ _

end Members

/-! ## One command -/

namespace Client

/-- Whether an act is one command that says this: the command is sent if a credential is held in the
end, and nothing else is sent but a login. -/
def Says (c : Client ν) (x : Act ν Unit) (said : Json.Value) : Prop :=
  ∀ w, ∃ sent, (x w).2.wire = w.wire ++ sent ∧ sent = c.logins sent ++ c.commands sent ∧
    (c.commands sent).length = (if (x w).2.credential.isSome then 1 else 0) ∧
    ∀ e ∈ c.commands sent, Json.read e.request.body = some said

/-- What is sent between the world `w` and the world `after` if one command is posted that says this.
A login comes before it if no credential is held, and then the command is posted if one is. -/
structure Posted (c : Client ν) (said : Json.Value) (w after : World ν)
    (sent : List Http.Exchange) : Prop where
  wire : after.wire = w.wire ++ sent
  order : sent = c.logins sent ++ c.commands sent
  logins : (c.logins sent).length = if w.credential = none then 1 else 0
  commands : (c.commands sent).length = if after.credential.isSome then 1 else 0
  held : w.credential ≠ none → after.credential = w.credential
  command : ∀ e ∈ c.commands sent, e.request.method = .post ∧
    e.request.header? "cookie" = after.credential ∧ Json.read e.request.body = some said

def Posts (c : Client ν) (x : Act ν Unit) (said : Json.Value) : Prop :=
  ∀ w, ∃ sent, c.Posted said w (x w).2 sent

theorem says_of_posts {c : Client ν} {x : Act ν Unit} {said : Json.Value} (h : c.Posts x said) :
    c.Says x said := by
  intro w
  obtain ⟨sent, posted⟩ := h w
  exact ⟨sent, posted.wire, posted.order, posted.commands, fun e he => (posted.command e he).2.2⟩

end Client

namespace Object

/-- What is read of a command about what goes by a name. -/
def telling (method name : String) (options : Json.Members) : Json.Value :=
  .object [("id", .text "0"), ("method", .text method),
    ("params", .list [.list [.text name], .object options])]

/-- What is read of a command about an object. -/
def said (kind : Kind) (action name : String) (options : Json.Members) : Json.Value :=
  telling (method kind action) name options

theorem posts_run (c : Client ν) (kind : Kind) (action name : String) {options : Json.Members}
    (plain : Json.Plain (Json.deepest - 2) (.object options)) :
    c.Posts (run c kind action name options) (said kind action name options) := by
  intro w
  let message : Client.Message := ⟨method kind action, [.text name], options⟩
  let record : Record := ⟨Component.fixture.target, .debug, method kind action ++ " " ++ name⟩
  obtain ⟨sent, h⟩ := c.operates (.command message) (w.noted [record])
  refine ⟨sent, h.wire, h.order, ?_, ?_, fun held => ?_, fun e he => ?_⟩
  · simpa [Client.Operation.startsOver] using h.logins
  · have one := h.commands
    simp only [Client.Operation.message?, Option.isSome_some, true_and] at one
    exact one
  · have none : c.logins sent = [] := by
      rw [← List.length_eq_zero_iff, h.logins]
      simp [Client.Operation.startsOver, held]
    have kept := h.credential
    rw [none] at kept
    exact kept
  · obtain ⟨m, hm, credential, given, hreq⟩ := h.command e he
    obtain rfl : message = m := Option.some.inj hm
    have args : Json.Plain (Json.deepest - 2) (.list [.text name]) := .list fun v hv => by
      obtain rfl := List.mem_singleton.mp hv
      exact .text name
    rw [hreq]
    refine ⟨rfl, ?_, ?_⟩
    · rw [Client.Message.header_request]
      exact given.symm
    · rw [Client.Message.body_request]
      exact Client.read_commandBody _ args plain

theorem posts_add (c : Client ν) (o : Object) :
    c.Posts (o.add c) (said o.kind "add" o.name (o.kind.addOptions o.name)) :=
  posts_run c o.kind "add" o.name (Directory.Command.add o.kind o.name).plain_options

theorem posts_remove (c : Client ν) (o : Object) :
    c.Posts (o.remove c) (said o.kind "del" o.name []) :=
  posts_run c o.kind "del" o.name (Members.areTexts_nil.plain _)

theorem says_add (c : Client ν) (o : Object) :
    c.Says (o.add c) (said o.kind "add" o.name (o.kind.addOptions o.name)) :=
  Client.says_of_posts (posts_add c o)

theorem says_remove (c : Client ν) (o : Object) :
    c.Says (o.remove c) (said o.kind "del" o.name []) :=
  Client.says_of_posts (posts_remove c o)

/-- Members by the names that the server is told. -/
def told (server : Identity) (m : Membership) (members : Members) : Members :=
  if m.isOfHosts then members.mapDirect server.qualify else members

theorem addMembers_eq (c : Client ν) (m : Membership) (name : String) (members : Members) :
    addMembers c m name members =
      match (told c.identity m members).options m.directKey m.groupKey? with
      | .ok options => run c m.kind m.action name options
      | .error cause => Act.fail (.usage cause) := rfl

theorem posts_addMembers (c : Client ν) (m : Membership) (name : String) {members : Members}
    {options : Json.Members}
    (h : (told c.identity m members).options m.directKey m.groupKey? = .ok options) :
    c.Posts (addMembers c m name members) (said m.kind m.action name options) := by
  rw [addMembers_eq, h]
  exact posts_run c m.kind m.action name ((Members.areTexts_options h).plain _)

theorem says_addMembers (c : Client ν) (m : Membership) (name : String) {members : Members}
    {options : Json.Members}
    (h : (told c.identity m members).options m.directKey m.groupKey? = .ok options) :
    c.Says (addMembers c m name members) (said m.kind m.action name options) :=
  Client.says_of_posts (posts_addMembers c m name h)

theorem told_hosts (server : Identity) {m : Membership} (hosts : m.isOfHosts = true)
    (members : Members) : told server m members = members.mapDirect server.qualify := if_pos hosts

/-- Hosts are told to the server by their full names, in the order in which they are given. -/
theorem says_addMembers_hosts (c : Client ν) {m : Membership} (hosts : m.isOfHosts = true)
    (name : String) (members : Members) (given : members.direct ≠ []) :
    ∃ options, c.Says (addMembers c m name members) (said m.kind m.action name options) ∧
      options.lookup m.directKey =
        some (Json.Value.texts (members.direct.map c.identity.qualify)) := by
  obtain ⟨key, hkey, hne⟩ : ∃ key, m.groupKey? = some key ∧ m.directKey ≠ key := by
    cases m with
    | hostInGroup | hostOfRule => exact ⟨"hostgroup", rfl, by decide⟩
    | userInGroup | serviceInGroup | userOfRule | serviceOfRule => cases hosts
  have hdirect : (members.mapDirect c.identity.qualify).direct ≠ [] := by
    simpa [Members.mapDirect] using given
  have hsome : (members.mapDirect c.identity.qualify).isEmpty = false := by
    simp [Members.isEmpty, hdirect]
  have hoptions : (told c.identity m members).options m.directKey m.groupKey? =
      .ok (Members.entry key members.groups
        (Members.entry m.directKey (members.direct.map c.identity.qualify) [])) := by
    rw [told_hosts c.identity hosts, hkey, Members.options, hsome]
    rfl
  refine ⟨_, says_addMembers c m name hoptions, ?_⟩
  rw [Members.lookup_entry, if_neg fun h => hne h.2, Members.lookup_entry, if_pos ⟨hdirect, rfl⟩]

end Object

end HostAccess
