import HostAccess.Proofs.Client

/-!
# The protocol of a session

Over any run of operations, whatever comes of the exchanges: an operation logs in exactly when it has
to, a command is sent exactly when a credential is held for it, every command shows the credential of
the last login that handed one out, and nothing but a login changes the credential.

What one operation does is `Operates`; what holds of the exchanges of a run is `Keeps`.
-/
namespace HostAccess.Client

variable {ν : Type}

/-! ## Operations and runs -/

/-- What a client can be told to do. -/
inductive Operation where
  | authenticate
  | reauthenticate
  | call (message : Message)
  /-- A call that has to succeed. -/
  | command (message : Message)

namespace Operation

/-- Whether the credential is given up first. -/
def startsOver : Operation → Bool
  | .reauthenticate => true
  | .authenticate | .call _ | .command _ => false

def message? : Operation → Option Message
  | .authenticate | .reauthenticate => none
  | .call m | .command m => some m

/-- Does the operation; how it ends is left aside. -/
def perform (c : Client ν) (op : Operation) (w : World ν) : World ν :=
  match op with
  | .authenticate => (c.authenticate w).2
  | .reauthenticate => (c.reauthenticate w).2
  | .call m => (c.call m.method m.args m.options w).2
  | .command m => (c.command m.method m.args m.options w).2

end Operation

/-- Does operations in order, however each of them ends. -/
def run (c : Client ν) : List Operation → World ν → World ν
  | [], w => w
  | op :: rest, w => run c rest (op.perform c w)

theorem run_append (c : Client ν) (first second : List Operation) (w : World ν) :
    c.run (first ++ second) w = c.run second (c.run first w) := by
  induction first generalizing w with
  | nil => rfl
  | cons op rest ih => exact ih (op.perform c w)

/-! ## Logins and commands on the wire -/

def isLogin (c : Client ν) (e : Http.Exchange) : Bool := e.request.url == c.baseUrl ++ loginPath

def isCommand (c : Client ν) (e : Http.Exchange) : Bool := e.request.url == c.baseUrl ++ sessionPath

def logins (c : Client ν) (log : List Http.Exchange) : List Http.Exchange := log.filter c.isLogin

def commands (c : Client ν) (log : List Http.Exchange) : List Http.Exchange :=
  log.filter c.isCommand

/-- The credential that the last login that handed one out has handed out. -/
def lastGrant (c : Client ν) (log : List Http.Exchange) : Option String :=
  ((c.logins log).filterMap (·.reception.grant?)).getLast?

theorem isLogin_login (c : Client ν) (w : World ν) :
    c.isLogin (c.network.exchange c.loginRequest w) = true := by
  simp [isLogin, Network.exchange, loginRequest]

theorem isCommand_login (c : Client ν) (w : World ν) :
    c.isCommand (c.network.exchange c.loginRequest w) = false := by
  simp [isCommand, Network.exchange, loginRequest, loginPath_ne]

section

variable (c : Client ν) (m : Message) (credential : String) (w : World ν)

theorem isLogin_message : c.isLogin (c.network.exchange (m.request c credential) w) = false := by
  simp [isLogin, Network.exchange, Message.request, commandRequest, loginPath_ne.symm]

theorem isCommand_message : c.isCommand (c.network.exchange (m.request c credential) w) = true := by
  simp [isCommand, Network.exchange, Message.request, commandRequest]

end

/-! ## One operation -/

/-- What an operation does that finds the world `w`, leaves the world `after` and makes the exchanges
`sent`. -/
structure Operates (c : Client ν) (op : Operation) (w after : World ν) (sent : List Http.Exchange) :
    Prop where
  wire : after.wire = w.wire ++ sent
  /-- First there are logins, then there are commands, and there is nothing else. -/
  order : sent = c.logins sent ++ c.commands sent
  logins : (c.logins sent).length = if op.startsOver ∨ w.credential = none then 1 else 0
  commands : (c.commands sent).length =
    if op.message?.isSome ∧ after.credential.isSome then 1 else 0
  login : ∀ e ∈ c.logins sent, e.request = c.loginRequest
  command : ∀ e ∈ c.commands sent, ∃ m ∈ op.message?, ∃ credential ∈ after.credential,
    e.request = m.request c credential
  /-- The credential is what the login has handed out, if there was one, and otherwise the same. -/
  credential : after.credential =
    match (c.logins sent).getLast? with
    | some e => e.reception.grant?
    | none => w.credential

/-- With a credential held, an operation without a message does nothing. -/
theorem operates_nothing {c : Client ν} {op : Operation} {w : World ν}
    (goesOn : op.startsOver = false) (held : w.credential ≠ none) (silent : op.message? = none) :
    Operates c op w w [] := by
  refine ⟨by simp, by simp [logins, commands], ?_, ?_, by simp [logins], by simp [commands], ?_⟩
  · simp [logins, goesOn, held]
  · simp [commands, silent]
  · simp [logins]

/-- A login is all there is if there is no message or no credential for it. -/
theorem operates_login {c : Client ν} {op : Operation} {w v : World ν} (wire : v.wire = w.wire)
    (missing : v.credential = none) (due : op.startsOver ∨ w.credential = none)
    (last : op.message? = none ∨ (c.loginReception v).grant? = none) :
    Operates c op w (c.loggedIn v) [c.network.exchange c.loginRequest v] := by
  have hl := c.isLogin_login v
  have hc := c.isCommand_login v
  refine ⟨by simp [loggedIn, wire], by simp [logins, commands, hl, hc], ?_, ?_, ?_, ?_, ?_⟩
  · simp [logins, hl, due]
  · rw [c.loggedIn_credential missing]
    obtain silent | refused := last
    · simp [commands, hc, silent]
    · simp [commands, hc, refused]
  · simp [logins, hl]
    rfl
  · simp [commands, hc]
  · rw [c.loggedIn_credential missing]
    simp [logins, hl]
    rfl

theorem called_wire {c : Client ν} {w : World ν} {credential : String} (m : Message)
    (held : w.credential = some credential) :
    (c.called m.method m.args m.options w).wire =
      w.wire ++ [c.network.exchange (m.request c credential) w] := by
  simp [called, held, Message.request]

theorem called_credential (c : Client ν) (m : Message) (w : World ν) :
    (c.called m.method m.args m.options w).credential = w.credential := rfl

theorem operates_message {c : Client ν} {op : Operation} {w : World ν} {m : Message}
    {credential : String} (goesOn : op.startsOver = false) (said : op.message? = some m)
    (held : w.credential = some credential) :
    Operates c op w (c.called m.method m.args m.options w)
      [c.network.exchange (m.request c credential) w] := by
  have hl := c.isLogin_message m credential w
  have hc := c.isCommand_message m credential w
  refine ⟨called_wire m held, by simp [logins, commands, hl, hc], ?_, ?_, ?_, ?_, ?_⟩
  · simp [logins, hl, goesOn, held]
  · simp [commands, hc, said, called_credential, held]
  · simp [logins, hl]
  · simp [commands, hc, said, called_credential, held]
    rfl
  · simp [logins, hl, called_credential]

theorem operates_login_message {c : Client ν} {op : Operation} {w : World ν} {m : Message}
    {credential : String} (said : op.message? = some m) (missing : w.credential = none)
    (granted : (c.loginReception w).grant? = some credential) :
    Operates c op w (c.called m.method m.args m.options (c.loggedIn w))
      [c.network.exchange c.loginRequest w,
        c.network.exchange (m.request c credential) (c.loggedIn w)] := by
  have held : (c.loggedIn w).credential = some credential := by
    rw [c.loggedIn_credential missing, granted]
  have hl := c.isLogin_login w
  have hc := c.isCommand_login w
  have hl' := c.isLogin_message m credential (c.loggedIn w)
  have hc' := c.isCommand_message m credential (c.loggedIn w)
  refine ⟨?_, by simp [logins, commands, hl, hc, hl', hc'], ?_, ?_, ?_, ?_, ?_⟩
  · simp [called_wire m held, loggedIn_wire]
  · simp [logins, hl, hl', missing]
  · simp [commands, hc, hc', said, called_credential, held]
  · simp [logins, hl, hl']
    rfl
  · simp [commands, hc, hc', said, called_credential, held]
    rfl
  · rw [called_credential, held, ← granted]
    simp [logins, hl, hl']
    rfl

/-- A call does what an operation with a message is to do. -/
theorem operates_call {c : Client ν} {op : Operation} {m : Message} (w : World ν)
    (goesOn : op.startsOver = false) (said : op.message? = some m) :
    ∃ sent, Operates c op w (c.call m.method m.args m.options w).2 sent := by
  cases held : w.credential with
  | some credential =>
    rw [c.call_of_held m.method m.args m.options (by simp [held])]
    exact ⟨_, operates_message goesOn said held⟩
  | none =>
    cases granted : (c.loginReception w).grant? with
    | some credential =>
      have held' : (c.loggedIn w).credential ≠ none := by
        simp [c.loggedIn_credential held, granted]
      rw [c.call_of_granted m.method m.args m.options held granted,
        c.call_of_held m.method m.args m.options held']
      exact ⟨_, operates_login_message said held granted⟩
    | none =>
      rw [c.call_of_refused m.method m.args m.options held granted]
      exact ⟨_, operates_login rfl held (.inr held) (.inr granted)⟩

theorem operates (c : Client ν) (op : Operation) (w : World ν) :
    ∃ sent, Operates c op w (op.perform c w) sent := by
  cases op with
  | authenticate =>
    cases held : w.credential with
    | some credential =>
      refine ⟨[], ?_⟩
      simp only [Operation.perform, c.authenticate_of_held (w := w) (by simp [held])]
      exact operates_nothing rfl (by simp [held]) rfl
    | none =>
      simp only [Operation.perform, c.authenticate_of_missing held]
      exact ⟨_, operates_login rfl held (.inr held) (.inl rfl)⟩
  | reauthenticate =>
    simp only [Operation.perform, c.reauthenticate_eq]
    rw [c.authenticate_of_missing (w := { w with credential := none }) rfl]
    exact ⟨_, operates_login rfl rfl (.inl rfl) (.inl rfl)⟩
  | call m => exact operates_call w rfl rfl
  | command m =>
    simp only [Operation.perform, c.command_eq]
    exact operates_call w rfl rfl

/-- The credential of a client changes only if a login hands one out, or if it is given up. -/
theorem Operates.credential_changes {c : Client ν} {op : Operation} {w after : World ν}
    {sent : List Http.Exchange} (h : Operates c op w after sent)
    (changed : after.credential ≠ w.credential) :
    (∃ e ∈ c.logins sent, ∃ credential,
      e.reception.grant? = some credential ∧ after.credential = some credential) ∨
      (op.startsOver = true ∧ after.credential = none) := by
  have hcred := h.credential
  cases last : (c.logins sent).getLast? with
  | none =>
    rw [last] at hcred
    exact absurd hcred changed
  | some e =>
    rw [last] at hcred
    have hmem : e ∈ c.logins sent := List.mem_of_getLast? last
    cases grant : e.reception.grant? with
    | some credential => exact .inl ⟨e, hmem, credential, grant, hcred.trans grant⟩
    | none =>
      have hnone : after.credential = none := hcred.trans grant
      by_cases due : op.startsOver = true ∨ w.credential = none
      · obtain again | missing := due
        · exact .inr ⟨again, hnone⟩
        · exact absurd (hnone.trans missing.symm) changed
      · have hlen := h.logins
        rw [if_neg due] at hlen
        rw [List.eq_nil_of_length_eq_zero hlen] at hmem
        cases hmem

/-! ## Runs -/

/-- What a client holds after exchanges: what the last login has handed out. -/
def heldAfter (c : Client ν) (log : List Http.Exchange) : Option String :=
  (c.logins log).getLast?.bind (·.reception.grant?)

/-- What holds of the exchanges of a run: every command among them shows the credential that the last
login before it that handed one out has handed out. -/
def Keeps (c : Client ν) (log : List Http.Exchange) : Prop :=
  ∀ earlier e later, log = earlier ++ e :: later → c.isCommand e = true →
    ∃ credential, c.lastGrant earlier = some credential ∧
      e.request.header? "cookie" = some credential

/-- The state of a client that has made the exchanges `log` since the world `start`. -/
structure Session (c : Client ν) (start w : World ν) (log : List Http.Exchange) : Prop where
  wire : w.wire = start.wire ++ log
  credential : w.credential = c.heldAfter log
  keeps : Keeps c log

theorem lastGrant_of_heldAfter {c : Client ν} {log : List Http.Exchange} {credential : String}
    (held : c.heldAfter log = some credential) : c.lastGrant log = some credential := by
  obtain ⟨e, last, grant⟩ := Option.bind_eq_some_iff.mp held
  obtain ⟨before, hlog⟩ := List.getLast?_eq_some_iff.mp last
  simp [lastGrant, hlog, grant]

theorem isLogin_of_isCommand {c : Client ν} {e : Http.Exchange} (h : c.isCommand e = true) :
    c.isLogin e = false := by
  have hu : e.request.url = c.baseUrl ++ sessionPath := by simpa [isCommand] using h
  simp [isLogin, hu, loginPath_ne.symm]

/-- An exchange of a log in two parts is in the first or in the second. -/
theorem split_append {first second earlier later : List Http.Exchange} {e : Http.Exchange}
    (h : first ++ second = earlier ++ e :: later) :
    (∃ rest, first = earlier ++ e :: rest ∧ later = rest ++ second) ∨
      ∃ mid, earlier = first ++ mid ∧ second = mid ++ e :: later := by
  obtain ⟨mid, he, hs⟩ | ⟨mid, hf, htail⟩ := List.append_eq_append_iff.mp h
  · exact .inr ⟨mid, he, hs⟩
  · cases mid with
    | nil => exact .inr ⟨[], by simpa using hf.symm, htail.symm⟩
    | cons x rest =>
      obtain ⟨rfl, rfl⟩ := List.cons.inj htail
      exact .inl ⟨rest, hf, rfl⟩

/-- Where logins come before commands, no login comes after a command. -/
theorem logins_before_command {c : Client ν} {sent earlier later : List Http.Exchange}
    {e : Http.Exchange} (order : sent = c.logins sent ++ c.commands sent)
    (split : sent = earlier ++ e :: later) (he : c.isCommand e = true) :
    c.logins earlier = c.logins sent := by
  have hcommands : ∀ x ∈ c.commands sent, c.isLogin x = false := fun x hx =>
    isLogin_of_isCommand (List.mem_filter.mp hx).2
  have hlater : ∀ x ∈ later, c.isLogin x = false := by
    intro x hx
    obtain ⟨rest, hfirst, -⟩ | ⟨mid, -, hsecond⟩ := split_append (order.symm.trans split)
    · have hmem : e ∈ c.logins sent := by simp [hfirst]
      have hlogin : c.isLogin e = true := (List.mem_filter.mp hmem).2
      rw [isLogin_of_isCommand he] at hlogin
      cases hlogin
    · exact hcommands x (by simp [hsecond, hx])
  rw [split]
  simp [logins, isLogin_of_isCommand he, List.filter_eq_nil_iff.mpr (by simpa using hlater)]

theorem heldAfter_append (c : Client ν) (log sent : List Http.Exchange) :
    c.heldAfter (log ++ sent) =
      match (c.logins sent).getLast? with
      | some e => e.reception.grant?
      | none => c.heldAfter log := by
  unfold heldAfter logins
  rw [List.filter_append, List.getLast?_append]
  cases (sent.filter c.isLogin).getLast? <;> rfl

theorem Session.step {c : Client ν} {op : Operation} {start w after : World ν}
    {log sent : List Http.Exchange} (s : Session c start w log) (h : Operates c op w after sent) :
    Session c start after (log ++ sent) := by
  have held : after.credential = c.heldAfter (log ++ sent) := by
    rw [h.credential, s.credential, heldAfter_append]
  refine ⟨by rw [h.wire, s.wire, List.append_assoc], held, ?_⟩
  intro earlier e later split he
  obtain ⟨rest, hlog, -⟩ | ⟨mid, rfl, hsent⟩ := split_append split
  · exact s.keeps earlier e rest hlog he
  · -- The command is one of this operation, so every login of the operation comes before it.
    have hmem : e ∈ c.commands sent := by simp [hsent, commands, he]
    obtain ⟨m, -, credential, hcred, hreq⟩ := h.command e hmem
    refine ⟨credential, lastGrant_of_heldAfter ?_, by rw [hreq, Message.header_request]⟩
    rw [heldAfter_append, logins_before_command h.order hsent he, ← heldAfter_append, ← held]
    exact hcred

/-- What a client keeps to over a run that begins in the world `start`. -/
theorem Session.run {c : Client ν} {start w : World ν} {log : List Http.Exchange}
    (s : Session c start w log) (ops : List Operation) :
    ∃ sent, Session c start (c.run ops w) (log ++ sent) := by
  induction ops generalizing w log with
  | nil =>
    refine ⟨[], ?_⟩
    rw [List.append_nil]
    exact s
  | cons op rest ih =>
    obtain ⟨first, h⟩ := c.operates op w
    obtain ⟨later, hlater⟩ := ih (s.step h)
    refine ⟨first ++ later, ?_⟩
    rw [← List.append_assoc]
    exact hlater

theorem Session.fresh (c : Client ν) {w : World ν} (fresh : w.credential = none) :
    Session c w w [] :=
  ⟨by simp, by simp [fresh, heldAfter, logins], by simp [Keeps]⟩

/-- **The protocol of a session, over every run of a client that begins without a credential.**
Whatever has been done before and whatever comes of the exchanges, the next operation does what
`Operates` says; the client holds what the last login has handed out; and every command of the run
shows the credential of the last login before it that handed one out. -/
theorem session_protocol (c : Client ν) (w : World ν) (fresh : w.credential = none)
    (ops : List Operation) (op : Operation) :
    ∃ log sent : List Http.Exchange,
      (c.run ops w).wire = w.wire ++ log ∧
      Operates c op (c.run ops w) (c.run (ops ++ [op]) w) sent ∧
      (c.run (ops ++ [op]) w).credential = c.heldAfter (log ++ sent) ∧
      ((c.run (ops ++ [op]) w).credential ≠ (c.run ops w).credential →
        (∃ e ∈ c.logins sent, ∃ credential, e.reception.grant? = some credential ∧
          (c.run (ops ++ [op]) w).credential = some credential) ∨
        (op.startsOver = true ∧ (c.run (ops ++ [op]) w).credential = none)) ∧
      Keeps c (log ++ sent) := by
  obtain ⟨log, s⟩ := (Session.fresh c fresh).run ops
  obtain ⟨sent, h⟩ := c.operates op (c.run ops w)
  have hrun : c.run (ops ++ [op]) w = op.perform c (c.run ops w) := c.run_append ops [op] w
  rw [← hrun] at h
  have after := s.step h
  exact ⟨log, sent, s.wire, h, after.credential, h.credential_changes, after.keeps⟩

/-- A server that hands out a credential and turns every command down, and a client of it. -/
def turnedDown : Client Unit where
  identity := .forTests
  baseUrl := "https://ipa.ipa.test"
  network := fun request outside =>
    if request.url == "https://ipa.ipa.test" ++ loginPath then
      (.answered ⟨200, [("set-cookie", Utf8.encode "ipa_session=a; Secure")], some []⟩, outside)
    else (.answered ⟨401, [], some []⟩, outside)

/-- A credential outlives a command that is turned down, until it is given up. -/
theorem session_protocol_turned_down :
    (World.blank ()).credential = none ∧
      (turnedDown.run [.command ⟨"ping", [], []⟩] (World.blank ())).credential =
        some "ipa_session=a" ∧
      ∃ log sent : List Http.Exchange,
        (turnedDown.run [.command ⟨"ping", [], []⟩] (World.blank ())).wire = log ∧
        Operates turnedDown .reauthenticate (turnedDown.run [.command ⟨"ping", [], []⟩] (World.blank ()))
          (turnedDown.run [.command ⟨"ping", [], []⟩, .reauthenticate] (World.blank ())) sent ∧
        Keeps turnedDown (log ++ sent) := by
  refine ⟨rfl, by decide, ?_⟩
  obtain ⟨log, sent, wire, operates, -, -, keeps⟩ :=
    session_protocol turnedDown (World.blank ()) rfl [.command ⟨"ping", [], []⟩] .reauthenticate
  exact ⟨log, sent, wire, operates, keeps⟩

end HostAccess.Client
