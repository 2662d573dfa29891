import HostAccess.Client

/-!
# What the client sends

What an operation of the client does is decided by what comes of its exchanges. A login is one
exchange, and it hands out a credential or it does not. A command is one exchange if a credential is
held; otherwise there is a login before it, and the command is sent only if that hands one out.
-/
namespace HostAccess

variable {ν : Type}

/-! ## One exchange -/

namespace Network

def reception (network : Network ν) (request : Http.Request) (w : World ν) : Http.Reception :=
  (network request w.outside).1

def exchange (network : Network ν) (request : Http.Request) (w : World ν) : Http.Exchange :=
  ⟨request, network.reception request w⟩

def sent (network : Network ν) (request : Http.Request) (w : World ν) : World ν :=
  { w with
    outside := (network request w.outside).2
    wire := w.wire ++ [network.exchange request w] }

def exchanges (network : Network ν) : List Http.Request → ν → List Http.Exchange
  | [], _ => []
  | request :: rest, outside =>
    ⟨request, (network request outside).1⟩ :: network.exchanges rest (network request outside).2

def outsideAfter (network : Network ν) : List Http.Request → ν → ν
  | [], outside => outside
  | request :: rest, outside => network.outsideAfter rest (network request outside).2

theorem exchanges_requests (network : Network ν) (requests : List Http.Request) (outside : ν) :
    (network.exchanges requests outside).map (·.request) = requests := by
  induction requests generalizing outside with
  | nil => rfl
  | cons request rest ih => simp [exchanges, ih]

end Network

def Http.Reception.taken : Http.Reception → Ending Http.Response
  | .answered response => .done response
  | .unreached | .dropped => .failed .transport

theorem Network.answer_eq (network : Network ν) (request : Http.Request) (w : World ν) :
    network.answer request w = ((network.reception request w).taken, network.sent request w) := by
  have hs : network.send request w = (.done (network.reception request w), network.sent request w) :=
    rfl
  unfold Network.answer
  rw [Act.bind_apply, hs]
  cases network.reception request w <;> rfl

/-- The credential that a login hands out: one that is in an answer of success. -/
def Http.Reception.grant? : Http.Reception → Option String
  | .answered response =>
    if Http.isSuccess response.status then Client.credentialOf response else none
  | .unreached | .dropped => none

def Identity.forTests : Identity :=
  ⟨"ipa.ipa.test", "ipa.test", "IPA.TEST", "admin", "Secret123", .anyone⟩

/-- A world in which there is nothing but what lies beyond it. -/
def World.blank (outside : ν) : World ν := ⟨⟨[], [], []⟩, Environment.empty, [], [], none, outside⟩

def World.noted (w : World ν) (records : Journal) : World ν :=
  { w with journal := w.journal ++ records }

theorem Act.note_apply (component : Component) (level : Level) (message : String) (w : World ν) :
    Act.note component level message w =
      (.done (), w.noted [⟨component.target, level, message⟩]) := rfl

def World.silent (w : World ν) : World ν := { w with journal := [] }

namespace World

def handed (w : World ν) (grant : Option String) : World ν :=
  { w with credential := grant.or w.credential }

@[simp] theorem handed_none (w : World ν) : w.handed none = w := rfl

@[simp] theorem handed_wire (w : World ν) (grant : Option String) :
    (w.handed grant).wire = w.wire := rfl

@[simp] theorem handed_credential (w : World ν) (grant : Option String) :
    (w.handed grant).credential = grant.or w.credential := rfl

@[simp] theorem noted_wire (w : World ν) (records : Journal) : (w.noted records).wire = w.wire :=
  rfl

@[simp] theorem noted_credential (w : World ν) (records : Journal) :
    (w.noted records).credential = w.credential := rfl

theorem outside_of_silent {v w : World ν} (h : v.silent = w.silent) : v.outside = w.outside := by
  have hs : v.silent.outside = w.silent.outside := by rw [h]
  exact hs

theorem credential_of_silent {v w : World ν} (h : v.silent = w.silent) :
    v.credential = w.credential := by
  have hs : v.silent.credential = w.silent.credential := by rw [h]
  exact hs

@[simp] theorem noted_nil (w : World ν) : w.noted [] = w := by
  simp [noted]

@[simp] theorem noted_noted (w : World ν) (first second : Journal) :
    (w.noted first).noted second = w.noted (first ++ second) := by
  simp [noted]

end World

namespace Network

variable (network : Network ν) (request : Http.Request) (w : World ν) (records : Journal)

@[simp] theorem reception_noted :
    network.reception request (w.noted records) = network.reception request w := rfl

theorem sent_noted :
    network.sent request (w.noted records) = (network.sent request w).noted records := rfl

@[simp] theorem sent_wire :
    (network.sent request w).wire = w.wire ++ [network.exchange request w] := rfl

@[simp] theorem sent_credential : (network.sent request w).credential = w.credential := rfl

end Network

namespace Client

/-! ## Logging in -/

def loginEnding : Http.Reception → Ending Reply
  | .answered response =>
    if Http.isSuccess response.status then
      match credentialOf response with
      | some _ => .done (Reply.ofStatus response.status)
      | none => .failed (.remote loginMethod response.status
          ("no " ++ sessionCookie ++ " cookie in login response"))
    else .done (Reply.ofStatus response.status)
  | .unreached | .dropped => .failed .transport

def loginRecords (c : Client ν) (reception : Http.Reception) : Journal :=
  ⟨Component.rpc.target, .debug, "logging in to " ++ c.baseUrl ++ " as " ++ c.identity.admin⟩ ::
    match reception with
    | .answered response =>
      if Http.isSuccess response.status then []
      else [⟨Component.rpc.target, .warn,
        "login as " ++ c.identity.admin ++ " failed with " ++ toString response.status⟩]
    | .unreached | .dropped => []

def loginReception (c : Client ν) (w : World ν) : Http.Reception :=
  c.network.reception c.loginRequest w

def loggedIn (c : Client ν) (w : World ν) : World ν :=
  ((c.network.sent c.loginRequest w).noted (c.loginRecords (c.loginReception w))).handed
    (c.loginReception w).grant?

/-- A login is one exchange, and what comes of it decides everything else. -/
theorem login_eq (c : Client ν) (w : World ν) :
    c.login w = (loginEnding (c.loginReception w), c.loggedIn w) := by
  have hr : c.network.reception c.loginRequest w = c.loginReception w := rfl
  unfold login loggedIn
  simp only [Act.bind_apply, Act.note_apply, Network.answer_eq, Network.reception_noted,
    Network.sent_noted, hr]
  cases h : c.loginReception w with
  | unreached => rfl
  | dropped => rfl
  | answered response =>
    simp only [Http.Reception.taken, loginEnding, loginRecords, Http.Reception.grant?]
    cases hs : Http.isSuccess response.status with
    | false => simp [Act.note_apply]
    | true =>
      cases hc : credentialOf response with
      | none => simp [Act.fail]
      | some credential => rfl

/-! ## Commands -/

/-- What a command says to the server. -/
structure Message where
  method : String
  args : List Json.Value
  options : Json.Members

def Message.request (m : Message) (c : Client ν) (credential : String) : Http.Request :=
  c.commandRequest (some credential) m.method m.args m.options

theorem loginPath_ne : loginPath ≠ sessionPath := by decide

theorem Message.header_request (m : Message) (c : Client ν) (credential : String) :
    (m.request c credential).header? "cookie" = some credential := by
  simp [Message.request, commandRequest, Http.Request.header?, List.lookup_cons]

theorem Message.body_request (m : Message) (c : Client ν) (credential : String) :
    (m.request c credential).body = Utf8.encode (commandBody m.method m.args m.options) := by
  simp only [Message.request, commandRequest]

theorem Message.url_request (m : Message) (c : Client ν) (credential : String) :
    (m.request c credential).url = c.baseUrl ++ sessionPath := rfl

def callEnding : Http.Reception → Ending Reply
  | .answered response =>
    match response.body with
    | some body => .done (Reply.ofBody response.status body)
    | none => .failed .transport
  | .unreached | .dropped => .failed .transport

def replyRecord (method : String) (args : List Json.Value) (reply : Reply) : Record :=
  let text := method ++ " " ++ Json.describeAll args ++ " -> " ++ toString reply.status
  match reply.fault with
  | none => ⟨Component.rpc.target, .debug, text⟩
  | some fault => ⟨Component.rpc.target, .info, text ++ ", fault: " ++ fault.message⟩

def callRecords (method : String) (args : List Json.Value) (reception : Http.Reception) : Journal :=
  match callEnding reception with
  | .done reply => [replyRecord method args reply]
  | .failed _ | .panicked _ => []

theorem noteReply_apply (method : String) (args : List Json.Value) (reply : Reply) (w : World ν) :
    noteReply method args reply w = (.done (), w.noted [replyRecord method args reply]) := by
  unfold noteReply replyRecord
  cases reply.fault <;> rfl

def called (c : Client ν) (method : String) (args : List Json.Value) (options : Json.Members)
    (w : World ν) : World ν :=
  (c.network.sent (c.commandRequest w.credential method args options) w).noted
    (callRecords method args
      (c.network.reception (c.commandRequest w.credential method args options) w))

/-- How an operation ends that needs a command to succeed. -/
def checked (method : String) : Ending Reply → Ending Unit
  | .done reply =>
    match reply.check method with
    | .ok () => .done ()
    | .error e => .failed e
  | .failed e => .failed e
  | .panicked p => .panicked p

/-- An answer without a credential is no success of a login. -/
theorem loginEnding_of_refused {reception : Http.Reception} (refused : reception.grant? = none) :
    (∃ reply : Reply, loginEnding reception = .done reply ∧ reply.isSuccess = false) ∨
      ∃ e, loginEnding reception = .failed e := by
  cases reception with
  | unreached => exact .inr ⟨_, rfl⟩
  | dropped => exact .inr ⟨_, rfl⟩
  | answered response =>
    cases hs : Http.isSuccess response.status with
    | false =>
      refine .inl ⟨Reply.ofStatus response.status, by simp [loginEnding, hs], ?_⟩
      simp [Reply.isSuccess, Reply.ofStatus, hs]
    | true =>
      have hc : credentialOf response = none := by simpa [Http.Reception.grant?, hs] using refused
      exact .inr ⟨_, by simp [loginEnding, hs, hc]; rfl⟩

theorem loginEnding_of_granted {reception : Http.Reception} {credential : String}
    (granted : reception.grant? = some credential) :
    ∃ reply : Reply, loginEnding reception = .done reply ∧ reply.isSuccess = true := by
  cases reception with
  | unreached => cases granted
  | dropped => cases granted
  | answered response =>
    cases hs : Http.isSuccess response.status with
    | false => simp [Http.Reception.grant?, hs] at granted
    | true =>
      have hc : credentialOf response = some credential := by
        simpa [Http.Reception.grant?, hs] using granted
      refine ⟨Reply.ofStatus response.status, by simp [loginEnding, hs, hc], ?_⟩
      simp [Reply.isSuccess, Reply.ofStatus, hs]

section

variable (c : Client ν) (method : String) (args : List Json.Value) (options : Json.Members)
  {w : World ν}

theorem ensureCredential_of_held (held : w.credential ≠ none) :
    c.ensureCredential w = (.done none, w) := by
  have hs : w.credential.isSome = true := Option.isSome_iff_ne_none.mpr held
  simp [ensureCredential, Act.look, hs]

/-- A login that hands out a credential is all that is needed. -/
theorem ensureCredential_of_granted {credential : String} (missing : w.credential = none)
    (granted : (c.loginReception w).grant? = some credential) :
    c.ensureCredential w = (.done none, c.loggedIn w) := by
  obtain ⟨reply, he, hs⟩ := loginEnding_of_granted granted
  simp [ensureCredential, Act.look, missing, c.login_eq, he, hs]

/-- A login that hands out no credential ends as it ends, or with the reply as a refusal. -/
theorem ensureCredential_of_refused (missing : w.credential = none)
    (refused : (c.loginReception w).grant? = none) :
    (∃ reply : Reply, loginEnding (c.loginReception w) = .done reply ∧ reply.isSuccess = false ∧
        c.ensureCredential w = (.done (some reply), c.loggedIn w)) ∨
      ∃ e, loginEnding (c.loginReception w) = .failed e ∧
        c.ensureCredential w = (.failed e, c.loggedIn w) := by
  obtain ⟨reply, he, hs⟩ | ⟨e, he⟩ := loginEnding_of_refused refused
  · exact .inl ⟨reply, he, hs, by simp [ensureCredential, Act.look, missing, c.login_eq, he, hs]⟩
  · exact .inr ⟨e, he, by simp [ensureCredential, Act.look, missing, c.login_eq, he]⟩

theorem loggedIn_wire (w : World ν) :
    (c.loggedIn w).wire = w.wire ++ [c.network.exchange c.loginRequest w] := rfl

theorem loggedIn_credential (missing : w.credential = none) :
    (c.loggedIn w).credential = (c.loginReception w).grant? := by
  simp [loggedIn, missing]

/-- With a credential held, a command is one exchange. -/
theorem call_of_held (held : w.credential ≠ none) :
    c.call method args options w =
      (callEnding (c.network.reception (c.commandRequest w.credential method args options) w),
        c.called method args options w) := by
  unfold call called
  simp only [Act.bind_apply, c.ensureCredential_of_held held, Act.look, Network.answer_eq]
  cases hr : c.network.reception (c.commandRequest w.credential method args options) w with
  | unreached => simp [Http.Reception.taken, callEnding, callRecords]
  | dropped => simp [Http.Reception.taken, callEnding, callRecords]
  | answered response =>
    cases hb : response.body with
    | none =>
      simp [Http.Reception.taken, Http.Response.whole, callEnding, callRecords, hb, Act.fail]
    | some body =>
      simp [Http.Reception.taken, Http.Response.whole, callEnding, callRecords, hb, Act.done,
        noteReply_apply]

/-- After a login that hands out a credential, a command is what it is with a credential held. -/
theorem call_of_granted {credential : String} (missing : w.credential = none)
    (granted : (c.loginReception w).grant? = some credential) :
    c.call method args options w = c.call method args options (c.loggedIn w) := by
  have held : (c.loggedIn w).credential ≠ none := by
    simp [c.loggedIn_credential missing, granted]
  unfold call
  simp only [Act.bind_apply, c.ensureCredential_of_granted missing granted,
    c.ensureCredential_of_held held]

/-- After a login that hands out no credential, no command is sent. -/
theorem call_of_refused (missing : w.credential = none)
    (refused : (c.loginReception w).grant? = none) :
    c.call method args options w = (loginEnding (c.loginReception w), c.loggedIn w) := by
  unfold call
  simp only [Act.bind_apply]
  obtain ⟨reply, he, -, hens⟩ | ⟨e, he, hens⟩ := c.ensureCredential_of_refused missing refused
  · rw [hens, he]
    rfl
  · rw [hens, he]

/-- A command that has to succeed is a command, and its reply decides how it ends. -/
theorem command_eq (w : World ν) :
    c.command method args options w =
      (checked method (c.call method args options w).1, (c.call method args options w).2) := by
  unfold command
  rw [Act.bind_apply]
  generalize c.call method args options w = run
  obtain ⟨ending, v⟩ := run
  cases ending with
  | done reply =>
    simp only [checked]
    cases reply.check method <;> rfl
  | failed e => rfl
  | panicked p => rfl

theorem authenticate_of_held (held : w.credential ≠ none) : c.authenticate w = (.done (), w) := by
  simp [authenticate, c.ensureCredential_of_held held]

theorem authenticate_of_missing (missing : w.credential = none) :
    c.authenticate w = (checked loginMethod (loginEnding (c.loginReception w)), c.loggedIn w) := by
  cases granted : (c.loginReception w).grant? with
  | some credential =>
    obtain ⟨reply, he, hs⟩ := loginEnding_of_granted granted
    simp [authenticate, c.ensureCredential_of_granted missing granted, he, checked, Reply.check, hs]
  | none =>
    obtain ⟨reply, he, hs, hens⟩ | ⟨e, he, hens⟩ := c.ensureCredential_of_refused missing granted
    · simp [authenticate, hens, he, checked, Reply.check, hs, Act.ofExcept, Act.fail]
    · simp [authenticate, hens, he, checked]

/-- Logging in again is logging in without a credential. -/
theorem reauthenticate_eq (w : World ν) :
    c.reauthenticate w = c.authenticate { w with credential := none } := rfl

/-- The journal is not read by a command: what has been written down before changes neither how it
ends nor what it leaves but for the journal. -/
theorem call_noted (w : World ν) (records : Journal) :
    (c.call method args options (w.noted records)).1 = (c.call method args options w).1 ∧
      (c.call method args options (w.noted records)).2.silent =
        (c.call method args options w).2.silent := by
  cases held : w.credential with
  | some credential =>
    have hw : w.credential ≠ none := by simp [held]
    rw [c.call_of_held method args options hw,
      c.call_of_held method args options (w := w.noted records) hw]
    exact ⟨rfl, rfl⟩
  | none =>
    have hn : (w.noted records).credential = none := held
    cases granted : (c.loginReception w).grant? with
    | none =>
      rw [c.call_of_refused method args options held granted,
        c.call_of_refused method args options hn granted]
      exact ⟨rfl, rfl⟩
    | some credential =>
      have hw : (c.loggedIn w).credential ≠ none := by simp [c.loggedIn_credential held, granted]
      rw [c.call_of_granted method args options held granted,
        c.call_of_granted method args options hn granted, c.call_of_held method args options hw,
        c.call_of_held method args options (w := c.loggedIn (w.noted records)) hw]
      exact ⟨rfl, rfl⟩

theorem command_noted (w : World ν) (records : Journal) :
    (c.command method args options (w.noted records)).1 = (c.command method args options w).1 ∧
      (c.command method args options (w.noted records)).2.silent =
        (c.call method args options w).2.silent := by
  obtain ⟨ending, world⟩ := c.call_noted method args options w records
  rw [c.command_eq, c.command_eq, ending]
  exact ⟨rfl, world⟩

theorem command_done_iff (w : World ν) :
    (c.command method args options w).1 = .done () ↔
      ∃ reply : Reply, (c.call method args options w).1 = .done reply ∧ reply.isSuccess = true := by
  rw [c.command_eq]
  cases (c.call method args options w).1 with
  | done reply => cases hs : reply.isSuccess <;> simp [checked, Reply.check, hs]
  | failed e => simp [checked]
  | panicked p => simp [checked]

theorem call_message (m : Message) {credential : String} (held : w.credential = some credential) :
    c.call m.method m.args m.options w =
      (callEnding (c.network.reception (m.request c credential) w),
        (c.network.sent (m.request c credential) w).noted
          (callRecords m.method m.args (c.network.reception (m.request c credential) w))) := by
  rw [c.call_of_held m.method m.args m.options (by simp [held])]
  simp only [called, held]
  rfl

theorem command_message (m : Message) {credential : String} (held : w.credential = some credential) :
    c.command m.method m.args m.options w =
      (checked m.method (callEnding (c.network.reception (m.request c credential) w)),
        (c.network.sent (m.request c credential) w).noted
          (callRecords m.method m.args (c.network.reception (m.request c credential) w))) := by
  rw [c.command_eq, c.call_message m held]

/-- No command ends in a panic. -/
theorem checked_ne_panicked (reception : Http.Reception) (p : Panic) :
    checked method (callEnding reception) ≠ .panicked p := by
  cases reception with
  | unreached => simp [callEnding, checked]
  | dropped => simp [callEnding, checked]
  | answered response =>
    cases hb : response.body with
    | none => simp [callEnding, checked, hb]
    | some body =>
      simp only [callEnding, hb, checked]
      cases (Reply.ofBody response.status body).check method <;> simp

/-- A credential is held after a command that succeeds, and after one that found a credential. -/
theorem call_credential (w : World ν)
    (h : w.credential ≠ none ∨ ∃ reply : Reply,
      (c.call method args options w).1 = .done reply ∧ reply.isSuccess = true) :
    (c.call method args options w).2.credential ≠ none := by
  cases held : w.credential with
  | some credential =>
    have hw : w.credential ≠ none := by simp [held]
    rw [c.call_of_held method args options hw]
    exact hw
  | none =>
    cases granted : (c.loginReception w).grant? with
    | some credential =>
      have hw : (c.loggedIn w).credential ≠ none := by simp [c.loggedIn_credential held, granted]
      rw [c.call_of_granted method args options held granted, c.call_of_held method args options hw]
      exact hw
    | none =>
      obtain hw | ⟨reply, ending, success⟩ := h
      · exact absurd held hw
      · rw [c.call_of_refused method args options held granted] at ending
        obtain ⟨refusal, he, failure⟩ | ⟨e, he⟩ := loginEnding_of_refused granted
        · obtain rfl : refusal = reply := by simpa [he] using ending
          simp [success] at failure
        · simp [he] at ending

end

end Client

end HostAccess
