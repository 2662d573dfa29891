import HostAccess.Http.Exchange

/-!
# Addresses

An address names a scheme, an authority and a target. It is brought into one form: the scheme and the
host in lower case, no blanks around it, no `.` and `..` in the path, and bytes that an address cannot
hold written by their numbers. What follows `#` is not sent.
-/
namespace HostAccess.Http

structure Url where
  scheme : String
  authority : String
  target : String
  deriving DecidableEq, Repr

namespace Url

def isEdge (c : Char) : Bool := c.toNat ≤ 0x20

def isBreak (c : Char) : Bool := c == '\t' || c == '\n' || c == '\x0d'

def clean (cs : List Char) : List Char :=
  ((cs.dropWhile isEdge).reverse.dropWhile isEdge).reverse.filter fun c => !isBreak c

/-- The port that a scheme uses unless another is named. -/
def defaultPort? (scheme : String) : Option String :=
  [("http", "80"), ("https", "443"), ("ftp", "21"), ("ws", "80"), ("wss", "443")].lookup scheme

def isSlash (c : Char) : Bool := c == '/' || c.toNat == 0x5C

def escapeByte (b : UInt8) : List Char :=
  '%' :: [b.toNat / 16, b.toNat % 16].map fun d => (Nat.digitChar d).toUpper

/-- A character, by the numbers of its bytes if it is among `escaped` or is not visible ASCII. -/
def escapeChar (escaped : List Char) (c : Char) : List Char :=
  if c.toNat ≤ 0x20 || 0x7F ≤ c.toNat || escaped.contains c then
    (Utf8.encode (String.singleton c)).flatMap escapeByte
  else [c]

def escapedInPath : List Char := Char.ofNat 0x22 :: Char.ofNat 0x60 :: "#<>?\x7b\x7d".toList

def escapedInQuery : List Char := Char.ofNat 0x22 :: Char.ofNat 0x27 :: "#<>".toList

/-- The names of a path without `.` and `..`; the names read so far come first, in reverse. At the
end of a path both leave an empty name. -/
def resolveDots : List String → List String → List String
  | names, [] => names.reverse
  | names, name :: rest =>
    let plain := (name.replace "%2e" ".").replace "%2E" "."
    if plain == ".." then
      resolveDots (if rest.isEmpty then "" :: names.tail else names.tail) rest
    else if plain == "." then
      resolveDots (if rest.isEmpty then "" :: names else names) rest
    else resolveDots (name :: names) rest

def splitSlashes : List Char → List (List Char)
  | [] => [[]]
  | c :: rest =>
    match splitSlashes rest with
    | [] => [[c]]
    | name :: names => if isSlash c then [] :: name :: names else (c :: name) :: names

def path (cs : List Char) : String :=
  let names := splitSlashes (if cs.head?.any isSlash then cs.tail else cs)
  let escaped := names.map fun name => String.ofList (name.flatMap (escapeChar escapedInPath))
  (resolveDots [] escaped).foldl (fun text name => text ++ "/" ++ name) ""

def query (cs : List Char) : String :=
  match cs with
  | '?' :: cs => "?" ++ String.ofList (cs.flatMap (escapeChar escapedInQuery))
  | _ => ""

/-- An authority in one form: without a user, and without the port that the scheme uses anyway. -/
def authority? (scheme : String) (cs : List Char) : Option String :=
  let server := (cs.reverse.takeWhile (· != '@')).reverse
  let host := String.ofList ((server.takeWhile (· != ':')).map Char.toLower)
  let port := String.ofList ((server.dropWhile (· != ':')).drop 1)
  if host.isEmpty || !port.toList.all Char.isDigit || 65535 < port.toNat?.getD 0 then none
  else if port.isEmpty || some port == defaultPort? scheme then some host
  else some (host ++ ":" ++ port)

def parse? (text : String) : Option Url := do
  let cs := clean text.toList
  let scheme := String.ofList ((cs.takeWhile (· != ':')).map Char.toLower)
  let _ ← defaultPort? scheme
  match cs.dropWhile (· != ':') with
  | [] => none
  | _ :: rest =>
    let rest := (rest.takeWhile (· != '#')).dropWhile isSlash
    let ends (c : Char) : Bool := isSlash c || c == '?'
    let authority ← authority? scheme (rest.takeWhile fun c => !ends c)
    let rest := rest.dropWhile fun c => !ends c
    let inPath := rest.takeWhile (· != '?')
    return ⟨scheme, authority, path inPath ++ query (rest.dropWhile (· != '?'))⟩

end Url

def Request.target (r : Request) : String := ((Url.parse? r.url).map Url.target).getD ""

/-- Whether the headers of a request can be sent: they hold no control characters but the tab. -/
def Request.isSendable (r : Request) : Bool :=
  r.headers.all fun (_, value) => value.toList.all fun c =>
    c == '\t' || (0x20 ≤ c.toNat && c.toNat != 0x7F)

end HostAccess.Http
