import HostAccess.Proofs.Lines
import HostAccess.Proofs.Operations
import HostAccess.Proofs.PathNames

/-!
# The session's cookie

A login that succeeds hands out the first session cookie among the cookies that come with it, and
nothing but its name and its value. From then on every command shows exactly that one pair. If no
cookie is the session's, then what needed the login fails, and no credential is held.
-/
namespace HostAccess

variable {ν : Type}

/-! ## Reading a header -/

namespace Http

/-- The characters that a header can be read with. -/
def IsVisible (c : Char) : Prop := c = '\t' ∨ (' '.toNat ≤ c.toNat ∧ c.toNat ≤ '~'.toNat)

theorem IsVisible.ascii {c : Char} (visible : IsVisible c) : c.toNat < 0x80 := by
  obtain rfl | ⟨-, below⟩ := visible
  · decide
  · exact Nat.lt_of_le_of_lt below (by decide)

theorem toNat_byte (b : UInt8) : (Char.ofNat b.toNat).toNat = b.toNat := by
  have small := b.toNat_lt
  unfold Char.ofNat
  rw [dif_pos (Or.inl (by omega))]
  rfl

theorem isReadable_iff {b : UInt8} : isReadable b = true ↔ IsVisible (Char.ofNat b.toNat) := by
  have tab : Char.ofNat b.toNat = '\t' ↔ b = 9 := by
    rw [← Char.toNat_inj, toNat_byte, ← UInt8.toNat_inj]
    rfl
  simp only [isReadable, IsVisible, tab, toNat_byte, Bool.or_eq_true, beq_iff_eq, Bool.and_eq_true,
    decide_eq_true_eq, UInt8.le_iff_toNat_le, UInt8.lt_iff_toNat_lt]
  exact or_congr_right (and_congr_right fun _ => Nat.lt_succ_iff)

/-- A header can be read if it is the bytes of visible characters, and then as these. -/
theorem readable?_eq_some_iff {value : Bytes} {text : String} :
    readable? value = some text ↔
      value = Utf8.encode text ∧ ∀ c ∈ text.toList, IsVisible c := by
  unfold readable?
  constructor
  · intro read
    split at read
    · rename_i all
      obtain rfl := Option.some.inj read
      have visible : ∀ b ∈ value, IsVisible (Char.ofNat b.toNat) := fun b hb =>
        isReadable_iff.mp (List.all_eq_true.mp all b hb)
      refine ⟨?_, by simpa using visible⟩
      rw [Utf8.encode_ofList, List.flatMap_map]
      have byte : ∀ b ∈ value, String.utf8EncodeChar (Char.ofNat b.toNat) = [b] := fun b hb => by
        rw [Utf8.encodeChar_ascii (visible b hb).ascii, toNat_byte, UInt8.ofNat_toNat]
      rw [List.flatMap_congr byte]
      simp
    · cases read
  · rintro ⟨rfl, visible⟩
    have back : ∀ c ∈ text.toList, Char.ofNat (UInt8.ofNat c.toNat).toNat = c := fun c hc => by
      have small := (visible c hc).ascii
      rw [Utf8.toNat_ofNat (by omega), Char.ofNat_toNat]
    have bytes : Utf8.encode text = text.toList.map fun c => UInt8.ofNat c.toNat := by
      have each := List.flatMap_congr fun c hc => Utf8.encodeChar_ascii (visible c hc).ascii
      exact each.trans (List.flatMap_pure_eq_map ..)
    have all : (Utf8.encode text).all isReadable = true := by
      rw [bytes, List.all_map, List.all_eq_true]
      exact fun c hc => isReadable_iff.mpr (by rw [back c hc]; exact visible c hc)
    have same : text.toList.map (fun c => Char.ofNat (UInt8.ofNat c.toNat).toNat) = text.toList :=
      (List.map_congr_left back).trans (List.map_id _)
    rw [if_pos all, bytes, List.map_map]
    exact congrArg some ((congrArg String.ofList same).trans String.ofList_toList)

end Http

/-! ## Texts cut at a character -/

namespace Text

/-- What comes before the first separator, of which there need not be one. -/
inductive IsFront (sep : Char) : List Char → List Char → Prop where
  | whole {cs : List Char} (bare : sep ∉ cs) : IsFront sep cs cs
  | cut {front : List Char} (bare : sep ∉ front) (rest : List Char) :
    IsFront sep (front ++ sep :: rest) front

theorem IsFront.bare {sep : Char} {cs front : List Char} (h : IsFront sep cs front) : sep ∉ front := by
  cases h <;> assumption

theorem IsFront.mem {sep c : Char} {cs front : List Char} (h : IsFront sep cs front) (hc : c ∈ front) :
    c ∈ cs := by
  cases h <;> simp [hc]

theorem takeWhile_eq_iff {sep : Char} {cs front : List Char} :
    cs.takeWhile (· != sep) = front ↔ IsFront sep cs front := by
  constructor
  · intro taken
    have bare : sep ∉ front := by
      intro h
      rw [← taken] at h
      have kept := List.mem_takeWhile_imp h
      exact bne_iff_ne.mp kept rfl
    have parts : front ++ cs.dropWhile (· != sep) = cs := taken ▸ List.takeWhile_append_dropWhile
    have stop := List.head?_dropWhile_not (· != sep) cs
    cases after : cs.dropWhile (· != sep) with
    | nil =>
      rw [after, List.append_nil] at parts
      exact parts ▸ .whole bare
    | cons c rest =>
      rw [after] at parts stop
      obtain rfl : c = sep := by simpa using stop
      exact parts ▸ .cut bare rest
  · have pass {front : List Char} (bare : sep ∉ front) : ∀ c ∈ front, (c != sep) = true :=
      fun c hc => bne_iff_ne.mpr fun same => bare (same ▸ hc)
    rintro (bare | ⟨bare, rest⟩)
    · exact List.takeWhile_eq_self_iff.mpr (pass bare)
    · rw [List.takeWhile_append_of_pos (pass bare)]
      simp

theorem splitOnce_eq_some_iff {sep : Char} {cs before after : List Char} :
    splitOnce sep cs = some (before, after) ↔ cs = before ++ sep :: after ∧ sep ∉ before := by
  constructor
  · intro split
    have joined := eq_of_splitOnce split
    obtain ⟨front, rest, hcs, bare⟩ := List.eq_append_cons_of_mem (joined ▸ by simp : sep ∈ cs)
    rw [hcs, splitOnce_append bare] at split
    obtain ⟨rfl, rfl⟩ := Prod.mk.inj (Option.some.inj split)
    exact ⟨hcs, bare⟩
  · rintro ⟨rfl, bare⟩
    exact splitOnce_append bare after

end Text

namespace Client

/-! ## The session's cookie -/

/-- A cookie that hands out a credential: it can be read, and before its first semicolon, without the
blanks around that, it is a name and a value with the first `=` between them; the name, without the
blanks around it, is that of the session's cookie, and the value is not empty. -/
inductive HandsOut : Bytes → String → Prop where
  | pair {text : String} {front name value : List Char}
    (visible : ∀ c ∈ text.toList, Http.IsVisible c)
    (front_eq : Text.IsFront ';' text.toList front)
    (cut : Text.trim front = name ++ '=' :: value) (bare : '=' ∉ name)
    (named : Text.trim name = sessionCookie.toList) (given : value ≠ []) :
    HandsOut (Utf8.encode text) (String.ofList (name ++ '=' :: value))

theorem credential?_eq_some_iff {text credential : String} :
    credential? text = some credential ↔ ∃ front name value,
      Text.IsFront ';' text.toList front ∧ Text.trim front = name ++ '=' :: value ∧ '=' ∉ name ∧
        Text.trim name = sessionCookie.toList ∧ value ≠ [] ∧
        credential = String.ofList (name ++ '=' :: value) := by
  have named (name : List Char) :
      (String.ofList name == sessionCookie) = true ↔ name = sessionCookie.toList := by
    rw [beq_iff_eq, ← String.toList_inj, String.toList_ofList]
  unfold credential?
  constructor
  · intro found
    obtain ⟨⟨name, value⟩, split, rest⟩ := Option.bind_eq_some_iff.mp found
    obtain ⟨cut, bare⟩ := Text.splitOnce_eq_some_iff.mp split
    simp only at rest
    split at rest
    · rename_i fits
      obtain ⟨hname, hvalue⟩ := Bool.and_eq_true_iff.mp fits
      refine ⟨_, name, value, Text.takeWhile_eq_iff.mp rfl, cut, bare, (named _).mp hname,
        by simpa using hvalue, ?_⟩
      rw [← Option.some.inj rest, cut]
    · cases rest
  · rintro ⟨front, name, value, hfront, cut, bare, hname, hvalue, rfl⟩
    have split := Text.splitOnce_eq_some_iff.mpr ⟨cut, bare⟩
    have fits : (String.ofList (Text.trim name) == sessionCookie && !value.isEmpty) = true := by
      rw [Bool.and_eq_true, named]
      exact ⟨hname, by simpa using hvalue⟩
    rw [Text.takeWhile_eq_iff.mpr hfront]
    refine Option.bind_eq_some_iff.mpr ⟨(name, value), split, ?_⟩
    simp only [fits, if_true, cut]

theorem handsOut_iff {value : Bytes} {credential : String} :
    (Http.readable? value).bind credential? = some credential ↔ HandsOut value credential := by
  rw [Option.bind_eq_some_iff]
  constructor
  · rintro ⟨text, read, found⟩
    obtain ⟨rfl, visible⟩ := Http.readable?_eq_some_iff.mp read
    obtain ⟨front, name, value, hfront, cut, bare, named, given, rfl⟩ :=
      credential?_eq_some_iff.mp found
    exact .pair visible hfront cut bare named given
  · rintro ⟨visible, hfront, cut, bare, named, given⟩
    exact ⟨_, Http.readable?_eq_some_iff.mpr ⟨rfl, visible⟩,
      credential?_eq_some_iff.mpr ⟨_, _, _, hfront, cut, bare, named, given, rfl⟩⟩

/-- The first of some cookies that hands out a credential hands out this one. -/
def FirstHandsOut (cookies : List Bytes) (credential : String) : Prop :=
  ∃ earlier cookie later, cookies = earlier ++ cookie :: later ∧ HandsOut cookie credential ∧
    ∀ other ∈ earlier, ∀ text, ¬ HandsOut other text

theorem credentialOf_eq_some_iff {response : Http.Response} {credential : String} :
    credentialOf response = some credential ↔
      FirstHandsOut (response.headerValues "set-cookie") credential := by
  unfold credentialOf FirstHandsOut
  rw [List.findSome?_eq_some_iff]
  simp only [handsOut_iff, Option.eq_none_iff_forall_ne_some, ne_eq]

theorem credentialOf_eq_none_iff {response : Http.Response} :
    credentialOf response = none ↔
      ∀ cookie ∈ response.headerValues "set-cookie", ∀ text, ¬ HandsOut cookie text := by
  unfold credentialOf
  rw [List.findSome?_eq_none_iff]
  simp only [← handsOut_iff, Option.eq_none_iff_forall_ne_some, ne_eq]

/-- One pair of a name and a value, and nothing else: the session's cookie. -/
structure IsSessionPair (credential : String) : Prop where
  bare : ';' ∉ credential.toList
  single : Pieces.split ';' credential.toList = [credential.toList]
  trimmed : Text.trim credential.toList = credential.toList
  visible : ∀ c ∈ credential.toList, Http.IsVisible c
  pair : ∃ name value, credential.toList = name ++ '=' :: value ∧ '=' ∉ name ∧
    Text.trim name = sessionCookie.toList ∧ value ≠ []

theorem HandsOut.isSessionPair {cookie : Bytes} {credential : String}
    (h : HandsOut cookie credential) : IsSessionPair credential := by
  obtain @⟨text, front, name, value, visible, hfront, cut, bare, named, given⟩ := h
  have within : ∀ c ∈ name ++ '=' :: value, c ∈ front := fun c hc =>
    Text.mem_of_mem_trim (cut ▸ hc)
  have plain : ';' ∉ name ++ '=' :: value := fun h => hfront.bare (within _ h)
  refine ⟨?_, ?_, ?_, ?_, name, value, String.toList_ofList, bare, named, given⟩ <;>
    rw [String.toList_ofList]
  · exact plain
  · exact Pieces.split_of_not_mem plain
  · rw [← cut, Text.trim_trim]
  · exact fun c hc => visible c (hfront.mem (within c hc))

/-- Whatever a login hands out is the one pair. -/
theorem isSessionPair_of_grant {reception : Http.Reception} {credential : String}
    (granted : reception.grant? = some credential) : IsSessionPair credential := by
  cases reception with
  | unreached => cases granted
  | dropped => cases granted
  | answered response =>
    have found : Http.isSuccess response.status = true ∧ credentialOf response = some credential := by
      simpa [Http.Reception.grant?] using granted
    obtain ⟨_, _, _, _, handed, _⟩ := credentialOf_eq_some_iff.mp found.2
    exact handed.isSessionPair

/-! ## What needs a login -/

section

variable (c : Client ν) (op : Operation) {w : World ν}

theorem Operation.act_world (w : World ν) : (op.act c w).2 = op.perform c w := by
  cases op <;> simp only [Operation.act, Operation.perform, Act.bind_apply]
  · cases c.authenticate w with | mk ending v => cases ending <;> rfl
  · cases c.reauthenticate w with | mk ending v => cases ending <;> rfl
  · rename_i m
    cases c.call m.method m.args m.options w with | mk ending v => cases ending <;> rfl
  · rename_i m
    cases c.command m.method m.args m.options w with | mk ending v => cases ending <;> rfl

theorem call_credential_of_missing (m : Message) (missing : w.credential = none) :
    (c.call m.method m.args m.options w).2.credential = (c.loginReception w).grant? := by
  cases granted : (c.loginReception w).grant? with
  | none =>
    rw [c.call_of_refused m.method m.args m.options missing granted,
      ← granted, ← c.loggedIn_credential missing]
  | some credential =>
    have after := c.loggedIn_credential missing
    have held : (c.loggedIn w).credential ≠ none := by simp [after, granted]
    rw [c.call_of_granted m.method m.args m.options missing granted,
      c.call_of_held m.method m.args m.options held, called_credential, after, granted]

/-- After an operation that needed a login, what is held is what the login has handed out. -/
theorem perform_credential (due : op.startsOver = true ∨ w.credential = none) :
    (op.perform c w).credential = (c.loginReception w).grant? := by
  cases op with
  | reauthenticate =>
    simp only [Operation.perform, c.reauthenticate_eq]
    rw [c.authenticate_of_missing (w := { w with credential := none }) rfl]
    exact c.loggedIn_credential rfl
  | authenticate =>
    have missing : w.credential = none := by simpa [Operation.startsOver] using due
    simp only [Operation.perform, c.authenticate_of_missing missing, c.loggedIn_credential missing]
  | call m =>
    have missing : w.credential = none := by simpa [Operation.startsOver] using due
    exact c.call_credential_of_missing m missing
  | command m =>
    have missing : w.credential = none := by simpa [Operation.startsOver] using due
    simp only [Operation.perform, c.command_eq]
    exact c.call_credential_of_missing m missing

theorem authenticate_of_failed_login {e : Error} (missing : w.credential = none)
    (failed : loginEnding (c.loginReception w) = .failed e) :
    c.authenticate w = (.failed e, c.loggedIn w) := by
  rw [c.authenticate_of_missing missing, failed]
  rfl

/-- An operation whose login fails fails with it. -/
theorem act_of_failed_login {e : Error} (due : op.startsOver = true ∨ w.credential = none)
    (refused : (c.loginReception w).grant? = none)
    (failed : loginEnding (c.loginReception w) = .failed e) : (op.act c w).1 = .failed e := by
  cases op with
  | reauthenticate =>
    have ended := c.authenticate_of_failed_login (w := { w with credential := none }) rfl failed
    simp only [Operation.act, Act.bind_apply, c.reauthenticate_eq, ended]
  | authenticate =>
    have missing : w.credential = none := by simpa [Operation.startsOver] using due
    simp only [Operation.act, Act.bind_apply, c.authenticate_of_failed_login missing failed]
  | call m =>
    have missing : w.credential = none := by simpa [Operation.startsOver] using due
    simp only [Operation.act, Act.bind_apply, c.call_of_refused m.method m.args m.options missing refused,
      failed]
  | command m =>
    have missing : w.credential = none := by simpa [Operation.startsOver] using due
    simp only [Operation.act, Act.bind_apply, c.command_eq,
      c.call_of_refused m.method m.args m.options missing refused, failed, checked]

end

/-! ## What commands show -/

/-- A request that shows one cookie, and in it the session's and no other. -/
def ShowsSession (request : Http.Request) : Prop :=
  ∃ credential, request.headers.filter (·.1 == "cookie") = [("cookie", credential)] ∧
    IsSessionPair credential

/-- No more is held than the session's cookie. -/
def HoldsSession (w : World ν) : Prop := ∀ credential ∈ w.credential, IsSessionPair credential

theorem Message.showsSession (m : Message) (c : Client ν) {credential : String}
    (pair : IsSessionPair credential) : ShowsSession (m.request c credential) := by
  refine ⟨credential, ?_, pair⟩
  simp [Message.request, commandRequest]

theorem Operates.holdsSession {c : Client ν} {op : Operation} {w after : World ν}
    {sent : List Http.Exchange} (h : Operates c op w after sent) (holds : HoldsSession w) :
    HoldsSession after := by
  intro credential held
  have change := h.credential
  rw [Option.mem_def.mp held] at change
  split at change
  · exact isSessionPair_of_grant change.symm
  · exact holds credential change.symm

theorem Operates.showsSession {c : Client ν} {op : Operation} {w after : World ν}
    {sent : List Http.Exchange} (h : Operates c op w after sent) (holds : HoldsSession after) :
    ∀ e ∈ c.commands sent, ShowsSession e.request := by
  intro e he
  obtain ⟨m, -, credential, held, request⟩ := h.command e he
  rw [request]
  exact m.showsSession c (holds credential held)

/-- If an operation leaves no more than the session's cookie, then it and all that come after it show
no other. -/
theorem run_showsSession (c : Client ν) (op : Operation) (ops : List Operation) {w : World ν}
    (holds : HoldsSession (op.perform c w)) :
    ∃ sent, (c.run (op :: ops) w).wire = w.wire ++ sent ∧
      ∀ e ∈ c.commands sent, ShowsSession e.request := by
  obtain ⟨first, h⟩ := c.operates op w
  have shown := h.showsSession holds
  induction ops generalizing op w first with
  | nil => exact ⟨first, h.wire, shown⟩
  | cons next rest ih =>
    obtain ⟨second, k⟩ := c.operates next (op.perform c w)
    have kept := k.holdsSession holds
    obtain ⟨later, wire, shows⟩ := ih next kept second k (k.showsSession kept)
    refine ⟨first ++ later, ?_, fun e he => ?_⟩
    · rw [← List.append_assoc, ← h.wire, ← wire]
      rfl
    · unfold commands at he
      rw [List.filter_append, List.mem_append] at he
      exact he.elim (shown e) (shows e)

/-- **A login picks one clean session cookie.** After an operation that needed a login, and got an
answer of success to it, what is held is what the first cookie hands out that hands out anything: one
pair of a name and a value, which is all that any later command shows. If no cookie hands out anything,
then the operation fails with the status of the answer and nothing is held. -/
theorem login_picks_cookie (c : Client ν) (w : World ν) {response : Http.Response}
    (answered : c.loginReception w = .answered response)
    (success : Http.isSuccess response.status = true) (op : Operation)
    (due : op.startsOver = true ∨ w.credential = none) :
    (∀ credential, (op.act c w).2.credential = some credential ↔
      FirstHandsOut (response.headerValues "set-cookie") credential) ∧
    (∀ credential, (op.act c w).2.credential = some credential → IsSessionPair credential) ∧
    (∀ ops, ∃ sent, (c.run (op :: ops) w).wire = w.wire ++ sent ∧
      ∀ e ∈ c.commands sent, ShowsSession e.request) ∧
    ((∀ cookie ∈ response.headerValues "set-cookie", ∀ text, ¬ HandsOut cookie text) →
      (op.act c w).1 = .failed (.remote "login_password" response.status
        "no ipa_session cookie in login response") ∧
      (op.act c w).2.credential = none) := by
  have grant : (c.loginReception w).grant? = credentialOf response := by
    rw [answered, Http.Reception.grant?, if_pos success]
  have held : (op.act c w).2.credential = credentialOf response := by
    rw [op.act_world, c.perform_credential op due, grant]
  have pair : ∀ credential, (op.act c w).2.credential = some credential → IsSessionPair credential :=
    fun credential h => isSessionPair_of_grant (grant.trans (held.symm.trans h))
  refine ⟨fun credential => ?_, pair, fun ops => ?_, fun none_hands => ?_⟩
  · rw [held, credentialOf_eq_some_iff]
  · exact c.run_showsSession op ops fun credential h => pair credential (by rwa [op.act_world])
  · have missing := credentialOf_eq_none_iff.mpr none_hands
    have failed : loginEnding (c.loginReception w) = .failed (.remote "login_password" response.status
        "no ipa_session cookie in login response") := by
      simp only [answered, loginEnding, if_pos success, missing]
      rfl
    exact ⟨c.act_of_failed_login op due (grant.trans missing) failed, held.trans missing⟩

/-- A server that sets a cookie of its own before the session's and another after it, and a client of
it. -/
def crumbled : Client Unit where
  identity := .forTests
  baseUrl := "https://ipa.ipa.test"
  network := fun _ outside => (.answered ⟨200, [("Set-Cookie", Utf8.encode "ipa_sessions=1"),
    ("set-cookie", Utf8.encode " ipa_session = a=b\t; Path=/ipa; Secure"),
    ("set-cookie", Utf8.encode "ipa_session=z")], some []⟩, outside)

theorem login_picks_cookie_crumbled :
    (Operation.act crumbled (.command ⟨"ping", [], []⟩) (World.blank ())).2.credential =
        some "ipa_session = a=b" ∧
      IsSessionPair "ipa_session = a=b" ∧
      ∃ sent, (crumbled.run [.command ⟨"ping", [], []⟩, .authenticate] (World.blank ())).wire = sent ∧
        ∀ e ∈ crumbled.commands sent, ShowsSession e.request := by
  have stored : (Operation.act crumbled (.command ⟨"ping", [], []⟩) (World.blank ())).2.credential =
      some "ipa_session = a=b" := by decide
  obtain ⟨-, pair, later, -⟩ :=
    login_picks_cookie crumbled (World.blank ()) rfl rfl (.command ⟨"ping", [], []⟩) (.inr rfl)
  obtain ⟨sent, wire, shows⟩ := later [.authenticate]
  exact ⟨stored, pair _ stored, sent, wire, shows⟩

end Client

end HostAccess
