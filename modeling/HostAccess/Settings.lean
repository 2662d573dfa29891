import HostAccess.Environment
import HostAccess.FileTree
import HostAccess.Identity
import HostAccess.ModuleConfig

/-!
# Settings of a run

A run is set up by variables. An empty variable counts as absent. The variables are looked at in a
fixed order and the first that is missing or unusable is reported; nothing is touched before all of
them are found right.
-/
namespace HostAccess

/-! The names of the variables that set up a run. -/
namespace Variable

def wrapper : String := "PAM_WRAPPER"

def serviceDir : String := "PAM_WRAPPER_SERVICE_DIR"

def modulePath : String := "PAM_HBAC_ABS_PATH"

def hostname : String := "IPA_HOSTNAME"

def domain : String := "IPA_DOMAIN"

def realm : String := "IPA_REALM"

def admin : String := "IPA_ADMIN"

def password : String := "IPA_ADMIN_PASSWD"

/-- Says that the server is trusted without a certificate. -/
def insecure : String := "IPA_INSECURE"

def configPath : String := "PAM_HBAC_CONFIG_PATH"

def baseDn : String := "IPA_BASEDN"

def testClient : String := "PAM_HBAC_TEST_CLIENT"

/-- The host that a check is made for; the account module reads it as well. -/
def hostName : String := "HOST_NAME"

def logLevel : String := "HBAC_TEST_LOG"

end Variable

/-- The base of the directory of a domain: a `dc` for each label that is not empty. -/
def baseDnOfDomain (domain : String) : String :=
  let labels := (Pieces.split '.' domain.toList).filter fun label => !label.isEmpty
  Text.joinWith "," (labels.map fun label => "dc=" ++ String.ofList label)

structure Settings where
  serviceDir : Path
  modulePath : Path
  server : Identity
  configPath : Option Path
  baseDn : String
  defaultHost : String
  testClient : Path
  deriving DecidableEq, Repr

namespace Settings

def defaultAdmin : String := "admin"

/-- The program that makes the account check unless another is given. -/
def defaultTestClient : String := "pam_test_client"

def certificateName : String := "ca.crt"

abbrev Lookup := String → Option String

/-- The value of a variable, if it is not empty. -/
def optional (lookup : Lookup) (name : String) : Option String :=
  (lookup name).filter fun value => !value.isEmpty

def required (lookup : Lookup) (name : String) : Except Misconfiguration String :=
  match optional lookup name with
  | some value => .ok value
  | none => .error (.unset name)

/-- Reads a flag; an absent flag is off. -/
def flag (name : String) : Option String → Except Misconfiguration Bool
  | none => .ok false
  | some value =>
    let lower := Text.lowerAscii value
    if ["1", "true", "yes"].contains lower then .ok true
    else if ["0", "false", "no"].contains lower then .ok false
    else .error (.notFlag name value)

/-- What the system answers when it is asked whether a path can be read and written. -/
abbrev Access := Path → Bool

def checkFolder (access : Access) (files : FileTree) (path : Path) : Except Misconfiguration Unit :=
  if Bytes.hasNul path then .error (.holdsNul Variable.serviceDir)
  else if access path && files.isFolder path then .ok ()
  else .error (.cannotAccess path)

def loadWith (access : Access) (files : FileTree) (lookup : Lookup) :
    Except Misconfiguration Settings := do
  if (← required lookup Variable.wrapper) != "1" then
    throw (.notInitialized Variable.wrapper)
  let serviceDir := Path.ofString (← required lookup Variable.serviceDir)
  checkFolder access files serviceDir
  let modulePath := Path.ofString (← required lookup Variable.modulePath)
  if !modulePath.isAbsolute then
    throw (.notAbsolute Variable.modulePath modulePath)
  let hostname ← required lookup Variable.hostname
  let domain := Text.lower (← required lookup Variable.domain)
  let password ← required lookup Variable.password
  let insecure ← flag Variable.insecure (optional lookup Variable.insecure)
  let server : Identity := {
    hostname
    domain
    realm := (optional lookup Variable.realm).getD (Text.upper domain)
    admin := (optional lookup Variable.admin).getD defaultAdmin
    password
    trust := if insecure then .anyone
      else .certificate (serviceDir.join (Path.ofString certificateName)) }
  return {
    serviceDir
    modulePath
    server
    configPath := (optional lookup Variable.configPath).map Path.ofString
    baseDn := (optional lookup Variable.baseDn).getD (baseDnOfDomain domain)
    defaultHost := (optional lookup Variable.hostName).getD hostname
    testClient := Path.ofString ((optional lookup Variable.testClient).getD defaultTestClient) }

/-- The settings of a run to which nothing is barred: it can read and write whatever there is. -/
def load (files : FileTree) (lookup : Lookup) : Except Misconfiguration Settings :=
  loadWith files.has files lookup

/-- The settings that the environment gives. A variable that is no text counts as absent. -/
def loadFrom (files : FileTree) (environment : Environment) : Except Misconfiguration Settings :=
  load files environment.text?

def directory (s : Settings) : ModuleConfig where
  uri := some ("ldap://" ++ s.server.hostname)
  base := some s.baseDn
  bindDn := some ("uid=" ++ s.server.admin ++ ",cn=users,cn=accounts," ++ s.baseDn)
  bindPassword := some s.server.password
  certificate := s.server.trust.certificate?
  hostName := none

end Settings

end HostAccess
