import HostAccess.Path
import HostAccess.Text.Case
import HostAccess.Text.Quoted

/-!
# The identity server

The server that a run works with, and the account it works under. Hosts are named within the
server's domain: a name that does not carry the domain is given it. A description of the server, for
logs, says everything but the password.
-/
namespace HostAccess

inductive Trust where
  | certificate (path : Path)
  | anyone
  deriving DecidableEq, Repr

def Trust.certificate? : Trust → Option Path
  | .certificate path => some path
  | .anyone => none

structure Identity where
  hostname : String
  domain : String
  realm : String
  admin : String
  password : String
  trust : Trust
  deriving DecidableEq, Repr

namespace Identity

def suffix (id : Identity) : String := "." ++ id.domain

/-- Whether a host name, in lower case, ends with the domain. -/
def carries (id : Identity) (host : String) : Bool :=
  id.suffix.toList.isSuffixOf (Text.lower host).toList

/-- The full name of a host. A name that carries the domain is kept as it is. -/
def qualify (id : Identity) (host : String) : String :=
  if id.carries host then host else host ++ id.suffix

def describeTrust : Trust → String
  | .certificate path => "Verify \x7b ca_cert: " ++ Text.Quoted.path path ++ " \x7d"
  | .anyone => "Insecure"

/-- The server for a log. The password is not shown. -/
def describe (id : Identity) : String :=
  "ServerIdentity \x7b hostname: " ++ Text.Quoted.string id.hostname ++
    ", domain: " ++ Text.Quoted.string id.domain ++
    ", realm: " ++ Text.Quoted.string id.realm ++
    ", admin: " ++ Text.Quoted.string id.admin ++
    ", password: " ++ Text.Quoted.string "<redacted>" ++
    ", tls: " ++ describeTrust id.trust ++ " \x7d"

end Identity

end HostAccess
