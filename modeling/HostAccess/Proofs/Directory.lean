import HostAccess.Proofs.Client
import HostAccess.Proofs.CommandBody
import HostAccess.Object

/-!
# What a server does with commands

A directory is what a server keeps: which objects there are, and which rules count. A command that
can be done changes it in one place; any other command is answered with a fault and changes nothing.
`Serves` says of a network that such a server is behind it. `Directory.server` is one: it reads what a
command says out of its body.
-/
namespace HostAccess

/-- For every kind and name whether there is an object, and if there is one whether it counts. -/
structure Directory where
  flag? : Kind → String → Option Bool

namespace Directory

def put (d : Directory) (kind : Kind) (name : String) (flag : Option Bool) : Directory where
  flag? k n := if k = kind ∧ n = name then flag else d.flag? k n

@[simp] theorem put_flag? (d : Directory) (kind : Kind) (name : String) (flag : Option Bool) :
    (d.put kind name flag).flag? kind name = flag := by
  simp [put]

theorem put_put {d : Directory} {kind : Kind} {name : String} {before : Option Bool}
    (h : d.flag? kind name = before) (flag : Option Bool) :
    (d.put kind name flag).put kind name before = d := by
  obtain ⟨entries⟩ := d
  simp only [put, Directory.mk.injEq] at h ⊢
  funext k n
  by_cases hk : k = kind ∧ n = name
  · rw [if_pos hk, hk.1, hk.2, h]
  · rw [if_neg hk, if_neg hk]

/-! ## Commands -/

/-- What a server can be told to do. -/
inductive Command where
  | add (kind : Kind) (name : String)
  | del (kind : Kind) (name : String)
  | disable (name : String)
  | enable (name : String)
  deriving DecidableEq, Repr

/-- What a server says to a command: that it is done, or a fault, of a name where one is agreed on. -/
inductive Answer where
  | success
  | fault
  | alreadyInactive
  | notFound
  deriving DecidableEq, Repr

def Answer.IsSaidBy : Answer → Reply → Prop
  | .success, reply => reply.isSuccess = true
  | .fault, reply => reply.fault ≠ none
  | .alreadyInactive, reply => reply.fault.bind (·.name) = some "AlreadyInactive"
  | .notFound, reply => reply.fault.bind (·.name) = some "NotFound"

instance (answer : Answer) (reply : Reply) : Decidable (answer.IsSaidBy reply) :=
  match answer with
  | .success => inferInstanceAs (Decidable (_ = _))
  | .fault => inferInstanceAs (Decidable (_ ≠ _))
  | .alreadyInactive => inferInstanceAs (Decidable (_ = _))
  | .notFound => inferInstanceAs (Decidable (_ = _))

theorem Answer.IsSaidBy.isSuccess_iff {answer : Answer} {reply : Reply} (h : answer.IsSaidBy reply) :
    reply.isSuccess = true ↔ answer = .success := by
  cases answer with
  | success => exact ⟨fun _ => rfl, fun _ => h⟩
  | fault =>
    obtain ⟨fault, hf⟩ := Option.ne_none_iff_exists'.mp h
    simp [Reply.isSuccess, hf]
  | alreadyInactive =>
    obtain ⟨fault, hf, -⟩ := Option.bind_eq_some_iff.mp h
    simp [Reply.isSuccess, hf]
  | notFound =>
    obtain ⟨fault, hf, -⟩ := Option.bind_eq_some_iff.mp h
    simp [Reply.isSuccess, hf]

namespace Command

def message : Command → Client.Message
  | .add kind name => ⟨Object.method kind "add", [.text name], kind.addOptions name⟩
  | .del kind name => ⟨Object.method kind "del", [.text name], []⟩
  | .disable name => ⟨Object.method .rule "disable", [.text name], []⟩
  | .enable name => ⟨Object.method .rule "enable", [.text name], []⟩

def answer (d : Directory) : Command → Answer
  | .add kind name => if d.flag? kind name = none then .success else .fault
  | .del kind name => if d.flag? kind name = none then .fault else .success
  | .disable name =>
    match d.flag? .rule name with
    | some true => .success
    | some false => .alreadyInactive
    | none => .notFound
  | .enable name => if d.flag? .rule name = some false then .success else .fault

def change (d : Directory) : Command → Directory
  | .add kind name => d.put kind name (some true)
  | .del kind name => d.put kind name none
  | .disable name => d.put .rule name (some false)
  | .enable name => d.put .rule name (some true)

/-- The directory after a command. A command that is not done changes nothing. -/
def after (d : Directory) (command : Command) : Directory :=
  if command.answer d = .success then command.change d else d

end Command

end Directory

/-- Behind the network of a client there is a server with a directory, as far as can be seen of what
lies beyond: it hands out credentials that it accepts, and with one of them it does every command and
says what came of it. -/
structure Serves {ν : Type} (c : Client ν) (accepted : String → Prop) (view : ν → Directory) :
    Prop where
  grants : ∀ outside, ∃ credential,
    (c.network c.loginRequest outside).1.grant? = some credential ∧ accepted credential
  logins : ∀ outside, view (c.network c.loginRequest outside).2 = view outside
  answers : ∀ (command : Directory.Command) credential outside, accepted credential →
    ∃ reply, Client.callEnding
        (c.network (command.message.request c credential) outside).1 = .done reply ∧
      (command.answer (view outside)).IsSaidBy reply
  commands : ∀ (command : Directory.Command) credential outside, accepted credential →
    view (c.network (command.message.request c credential) outside).2 =
      command.after (view outside)

namespace Directory

/-! ## A server -/

def Command.ofMethod? (method name : String) : Option Command :=
  if method = Object.method .rule "disable" then some (.disable name)
  else if method = Object.method .rule "enable" then some (.enable name)
  else
    ((Kind.all.find? (Object.method · "add" == method)).map (.add · name)).or
      ((Kind.all.find? (Object.method · "del" == method)).map (.del · name))

/-- The command that a body says. -/
def Command.read? (body : Bytes) : Option Command := do
  let value ← Json.read body
  match value.member? "method", value.member? "params" with
  | some (.text method), some (.list [.list [.text name], .object _]) => ofMethod? method name
  | _, _ => none

def Answer.body : Answer → Bytes
  | .success => Utf8.encode "\x7b\"error\":null,\"result\":\x7b\x7d\x7d"
  | .fault => Utf8.encode "\x7b\"error\":\x7b\"code\":4002,\"name\":\"Refused\"\x7d\x7d"
  | .alreadyInactive =>
    Utf8.encode "\x7b\"error\":\x7b\"code\":4010,\"name\":\"AlreadyInactive\"\x7d\x7d"
  | .notFound => Utf8.encode "\x7b\"error\":\x7b\"code\":4001,\"name\":\"NotFound\"\x7d\x7d"

def granted : String := "ipa_session=granted"

theorem Command.ofMethod?_message (command : Command) : ∃ name,
    command.message.args = [.text name] ∧ ofMethod? command.message.method name = some command := by
  cases command with
  | add kind name =>
    refine ⟨name, rfl, ?_⟩
    cases kind <;> rfl
  | del kind name =>
    refine ⟨name, rfl, ?_⟩
    cases kind <;> rfl
  | disable name => exact ⟨name, rfl, rfl⟩
  | enable name => exact ⟨name, rfl, rfl⟩

theorem Command.plain_options (command : Command) :
    Json.Plain (Json.deepest - 2) (.object command.message.options) := by
  cases command with
  | add kind name =>
    cases kind with
    | host => exact .object rfl (by simp [message, Kind.addOptions]; exact .bool true)
    | user =>
      refine .object rfl fun m hm => ?_
      simp only [message, Kind.addOptions, List.mem_cons, List.not_mem_nil, or_false] at hm
      rcases hm with rfl | rfl
      · exact .text _
      · exact .text _
    | hostGroup => exact .object rfl (by simp [message, Kind.addOptions])
    | userGroup => exact .object rfl (by simp [message, Kind.addOptions])
    | serviceGroup => exact .object rfl (by simp [message, Kind.addOptions])
    | rule => exact .object rfl (by simp [message, Kind.addOptions])
  | del kind name => exact .object rfl (by simp [message])
  | disable name => exact .object rfl (by simp [message])
  | enable name => exact .object rfl (by simp [message])

/-- A command is read out of the body that it is sent in. -/
theorem Command.read?_message (command : Command) :
    read? (Utf8.encode (Client.commandBody command.message.method command.message.args
      command.message.options)) = some command := by
  obtain ⟨name, args, method⟩ := command.ofMethod?_message
  have plain : Json.Plain (Json.deepest - 2) (.list [.text name]) :=
    .list fun v hv => by
      obtain rfl := List.mem_singleton.mp hv
      exact .text name
  rw [args, read?, Client.read_commandBody _ plain command.plain_options]
  exact method

theorem Answer.isSaidBy_body (answer : Answer) : answer.IsSaidBy (Reply.ofBody 200 answer.body) := by
  cases answer with
  | success => decide +kernel
  | fault => decide +kernel
  | alreadyInactive => decide +kernel
  | notFound => decide +kernel

def welcome : Http.Reception :=
  .answered ⟨200, [("set-cookie", Utf8.encode (granted ++ "; Path=/ipa; Secure"))], some []⟩

/-- The server at an address. It lies behind the network with nothing but its directory. -/
def server (address : String) : Network Directory := fun request d =>
  if request.url = address ++ Client.loginPath then (welcome, d)
  else if request.header? "cookie" = some granted then
    match Command.read? request.body with
    | some command => (.answered ⟨200, [], some (command.answer d).body⟩, command.after d)
    | none => (.answered ⟨400, [], some []⟩, d)
  else (.answered ⟨401, [], some []⟩, d)

theorem welcome_grant? : welcome.grant? = some granted := by decide +kernel

theorem server_login (c : Client Directory) (d : Directory) :
    server c.baseUrl c.loginRequest d = (welcome, d) :=
  if_pos rfl

theorem server_command (c : Client Directory) (command : Command) (d : Directory) :
    server c.baseUrl (command.message.request c granted) d =
      (.answered ⟨200, [], some (command.answer d).body⟩, command.after d) := by
  have url : (command.message.request c granted).url ≠ c.baseUrl ++ Client.loginPath := by
    simp [Client.Message.url_request, Client.loginPath_ne.symm]
  have body : Command.read? (command.message.request c granted).body = some command := by
    rw [Client.Message.body_request, command.read?_message]
  unfold server
  rw [if_neg url, if_pos (command.message.header_request c granted), body]

/-- **The server does what is asked of one**: it serves every client that reaches it. -/
theorem server_serves {c : Client Directory} (behind : c.network = server c.baseUrl) :
    Serves c (· = granted) (fun d => d) := by
  refine ⟨fun d => ⟨granted, ?_, rfl⟩, fun d => ?_, ?_, ?_⟩
  · rw [behind, server_login]
    exact welcome_grant?
  · rw [behind, server_login]
  · rintro command credential d rfl
    rw [behind, server_command]
    exact ⟨_, rfl, (command.answer d).isSaidBy_body⟩
  · rintro command credential d rfl
    rw [behind, server_command]

end Directory

end HostAccess
