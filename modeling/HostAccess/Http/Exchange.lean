import HostAccess.Bytes
import HostAccess.Text.Utf8

/-!
# Requests and what comes of them

A request is sent and something comes of it: nothing reaches the server, the server takes the request
and gives no answer, or there is an answer, whose body may break off. Only the headers that a caller
sets are part of a request. Names of headers are the same in capitals or not.
-/
namespace HostAccess.Http

inductive Method where
  | get
  | post
  deriving DecidableEq, Repr

def Method.name : Method → String
  | .get => "GET"
  | .post => "POST"

structure Request where
  method : Method
  url : String
  headers : List (String × String)
  body : Bytes
  deriving DecidableEq, Repr

def Request.header? (r : Request) (name : String) : Option String := r.headers.lookup name

/-- An answer. The body is `none` if it breaks off before its end. -/
structure Response where
  status : Nat
  headers : List (String × Bytes)
  body : Option Bytes
  deriving DecidableEq, Repr

def isSuccess (status : Nat) : Bool := 200 ≤ status && status < 300

def Response.headerValues (r : Response) (name : String) : List Bytes :=
  r.headers.filterMap fun (n, value) =>
    if n.toList.map Char.toLower == name.toList.map Char.toLower then some value else none

inductive Reception where
  | unreached
  | dropped
  | answered (response : Response)
  deriving DecidableEq, Repr

structure Exchange where
  request : Request
  reception : Reception
  deriving DecidableEq, Repr

def Exchange.reached (e : Exchange) : Bool := e.reception != .unreached

/-- Whether a byte of a header can be read as text: the visible characters, the space and the tab. -/
def isReadable (b : UInt8) : Bool := b == 9 || (0x20 ≤ b && b < 0x7F)

def readable? (value : Bytes) : Option String :=
  if value.all isReadable then some (String.ofList (value.map fun b => Char.ofNat b.toNat))
  else none

end HostAccess.Http
