import HostAccess.Http.Url
import HostAccess.World

/-!
# A server with prepared answers

A bench stands in for what lies outside a run. Its server answers each request that reaches it with
the next of the answers prepared for it, and with a fault once they are used up. It is reached over
plain HTTP at one address; everything sent elsewhere reaches nothing.
-/
namespace HostAccess.Bench

structure Canned where
  status : Nat
  headers : List (String × Bytes)
  body : Bytes
  missing : Nat
  dropped : Bool

def address : String := "127.0.0.1:17389"

def baseUrl : String := "http://" ++ address

def loginCookie (value : String) : String × Bytes :=
  ("Set-Cookie",
    Utf8.encode ("ipa_session=" ++ value ++ "; Domain=localhost; Path=/ipa; HttpOnly"))

def exhausted : Canned where
  status := 500
  headers := []
  body := Utf8.encode
    "\x7b\"error\": \x7b\"code\": 500, \"name\": \"StubExhausted\", \"message\": \"no canned response left\"\x7d\x7d"
  missing := 0
  dropped := false

def switching : Nat := 101

def hasBody (status : Nat) : Bool := status != switching && status != 204 && status != 304

/-- Whether an answer of this status ends the exchange: those below 200 only announce one, but for
the change of protocol. -/
def isFinal (status : Nat) : Bool := status == switching || (200 ≤ status && status ≤ 999)

/-- The blanks around the value of a header are not part of it. -/
def trimHeader (value : Bytes) : Bytes :=
  let isBlank (b : UInt8) : Bool := b == 0x20 || b == 0x09
  ((value.dropWhile isBlank).reverse.dropWhile isBlank).reverse

/-- Whether the value of a header can be sent: it holds no control characters but the tab. -/
def isHeaderValue (value : Bytes) : Bool := value.all fun b => b == 9 || (0x20 ≤ b && b != 0x7F)

def Canned.reception (c : Canned) : Http.Reception :=
  if c.dropped || !isFinal c.status || !c.headers.all (isHeaderValue ·.2) then .dropped
  else .answered {
    status := c.status
    headers := c.headers.map fun (name, value) => (name, trimHeader value)
    body := if !hasBody c.status then some [] else if c.missing = 0 then some c.body else none }

abbrev Server := List Canned

def isReached (request : Http.Request) : Bool :=
  request.isSendable && match Http.Url.parse? request.url with
    | some url => url.scheme == "http" && url.authority == address
    | none => false

def Server.answer (server : Server) (request : Http.Request) : Http.Reception × Server :=
  if isReached request then
    match server with
    | [] => (exhausted.reception, [])
    | c :: rest => (c.reception, rest)
  else (.unreached, server)

end HostAccess.Bench
