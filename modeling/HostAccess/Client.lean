import HostAccess.Http.Form
import HostAccess.Identity
import HostAccess.Reply
import HostAccess.Text.Blank
import HostAccess.TrustAnchor
import HostAccess.World

/-!
# The client of the identity server

The client sends commands. It logs in when a command first needs it to, keeps the credential that it
is handed, and shows it with every command. No command is sent without a credential, and no reply to
a command takes the credential away.
-/
namespace HostAccess

structure Client (ν : Type) where
  identity : Identity
  baseUrl : String
  network : Network ν

namespace Client

variable {ν : Type}

def loginPath : String := "/ipa/session/login_password"

def sessionPath : String := "/ipa/session/json"

def loginMethod : String := "login_password"

def sessionCookie : String := "ipa_session"

/-- The address without the slashes that it ends with. -/
def trimSlashes (url : String) : String :=
  String.ofList (url.toList.reverse.dropWhile (· == '/')).reverse

/-- A client that reaches the server at an address. If the server is trusted by a certificate, the
certificate has to be there already. -/
def connectAt (network : Network ν) (identity : Identity) (url : String) : Act ν (Client ν) := do
  match identity.trust with
  | .anyone => pure ()
  | .certificate path =>
    let contents ← Act.readFile path
    if !TrustAnchor.isUsable contents then Act.fail .transport
  return { identity, baseUrl := trimSlashes url, network }

def connect (network : Network ν) (identity : Identity) : Act ν (Client ν) :=
  connectAt network identity ("https://" ++ identity.hostname)

/-- The credential in a cookie that the server sets: name and value, without what is said about
them. Only the session's cookie is one, and only if it has a value. -/
def credential? (cookie : String) : Option String := do
  let pair := Text.trim (cookie.toList.takeWhile (· != ';'))
  let (name, value) ← Text.splitOnce '=' pair
  if String.ofList (Text.trim name) == sessionCookie && !value.isEmpty then
    some (String.ofList pair)
  else none

/-- The first credential among the cookies of an answer. -/
def credentialOf (response : Http.Response) : Option String :=
  (response.headerValues "set-cookie").findSome? fun value =>
    (Http.readable? value).bind credential?

def referer (c : Client ν) : String := c.baseUrl ++ "/ipa"

def loginRequest (c : Client ν) : Http.Request where
  method := .post
  url := c.baseUrl ++ loginPath
  headers := [("referer", c.referer), ("accept", "text/plain"),
    ("content-type", "application/x-www-form-urlencoded")]
  body := Http.Form.encode [("user", c.identity.admin), ("password", c.identity.password)]

/-- Logs in. A refusal is a reply; an answer that hands out no credential is an error. -/
def login (c : Client ν) : Act ν Reply := do
  Act.note .rpc .debug ("logging in to " ++ c.baseUrl ++ " as " ++ c.identity.admin)
  let response ← c.network.answer c.loginRequest
  if !Http.isSuccess response.status then
    Act.note .rpc .warn
      ("login as " ++ c.identity.admin ++ " failed with " ++ toString response.status)
    return Reply.ofStatus response.status
  match credentialOf response with
  | some credential =>
    Act.change fun w => { w with credential := some credential }
    return Reply.ofStatus response.status
  | none =>
    Act.fail (.remote loginMethod response.status
      ("no " ++ sessionCookie ++ " cookie in login response"))

/-- Logs in unless a credential is held. If that was needed and refused, gives the refusal. -/
def ensureCredential (c : Client ν) : Act ν (Option Reply) := do
  if ← Act.look (·.credential.isSome) then return none
  let reply ← c.login
  return if reply.isSuccess then none else some reply

def authenticate (c : Client ν) : Act ν Unit := do
  match ← c.ensureCredential with
  | none => pure ()
  | some refusal => Act.ofExcept (refusal.check loginMethod)

/-- Gives up the credential, if one is held, and logs in again. -/
def reauthenticate (c : Client ν) : Act ν Unit := do
  Act.change fun w => { w with credential := none }
  c.authenticate

/-- The body of a command: its name, its arguments by place and by name, and a number. -/
def commandBody (method : String) (args : List Json.Value) (options : Json.Members) : String :=
  "\x7b\"method\":" ++ Json.quote method ++
    ",\"params\":[" ++ (Json.Value.list args).render ++ "," ++ (Json.Value.object options).render ++
    "],\"id\":\"0\"\x7d"

/-- The request of a command. The credential is shown if one is held. -/
def commandRequest (c : Client ν) (credential : Option String) (method : String)
    (args : List Json.Value) (options : Json.Members) : Http.Request where
  method := .post
  url := c.baseUrl ++ sessionPath
  headers := [("referer", c.referer), ("content-type", "application/json"),
    ("accept", "application/json")] ++ (credential.map fun value => ("cookie", value)).toList
  body := Utf8.encode (commandBody method args options)

def noteReply (method : String) (args : List Json.Value) (reply : Reply) : Act ν Unit :=
  let text := method ++ " " ++ Json.describeAll args ++ " -> " ++ toString reply.status
  match reply.fault with
  | none => Act.note .rpc .debug text
  | some fault => Act.note .rpc .info (text ++ ", fault: " ++ fault.message)

/-- Sends a command. If a login is needed for it and refused, the refusal is the reply. -/
def call (c : Client ν) (method : String) (args : List Json.Value) (options : Json.Members) :
    Act ν Reply := do
  match ← c.ensureCredential with
  | some refusal => return refusal
  | none =>
    let credential ← Act.look (·.credential)
    let response ← c.network.answer (c.commandRequest credential method args options)
    let body ← response.whole
    let reply := Reply.ofBody response.status body
    noteReply method args reply
    return reply

def command (c : Client ν) (method : String) (args : List Json.Value) (options : Json.Members) :
    Act ν Unit := do
  Act.ofExcept ((← c.call method args options).check method)

end Client

end HostAccess
