import HostAccess.Error
import HostAccess.Text.Blank
import HostAccess.Text.Case
import HostAccess.Text.Lines

/-!
# The account module's configuration

The account module finds the directory by a file of settings, one on a line: a key, `=` and a value.
Keys are read in capitals or not and blanks around keys and values do not count. A line that is blank
or begins with `#` says nothing, a key that is not known is passed over, and of several settings of
one key the last counts. Another file, of one line, puts the account module in charge of a service.
-/
namespace HostAccess

inductive Setting where
  | uri
  | base
  | bindDn
  | bindPassword
  | certificate
  | hostName
  deriving DecidableEq, Repr

namespace Setting

/-- All settings, in the order in which they are written. -/
def all : List Setting := [.uri, .base, .bindDn, .bindPassword, .certificate, .hostName]

def key : Setting → String
  | .uri => "URI"
  | .base => "BASE"
  | .bindDn => "BIND_DN"
  | .bindPassword => "BIND_PW"
  | .certificate => "CA_CERT"
  | .hostName => "HOST_NAME"

def ofKey? (key : String) : Option Setting :=
  all.find? fun s => s.key == Text.upperAscii key

end Setting

/-- What the account module is told. The certificate is a path, which need not be text. -/
structure ModuleConfig where
  uri : Option String
  base : Option String
  bindDn : Option String
  bindPassword : Option String
  certificate : Option Path
  hostName : Option String
  deriving DecidableEq, Repr

namespace ModuleConfig

def empty : ModuleConfig := ⟨none, none, none, none, none, none⟩

def get? (c : ModuleConfig) : Setting → Option String
  | .uri => c.uri
  | .base => c.base
  | .bindDn => c.bindDn
  | .bindPassword => c.bindPassword
  | .certificate => c.certificate.map Path.display
  | .hostName => c.hostName

def set (c : ModuleConfig) (s : Setting) (value : String) : ModuleConfig :=
  match s with
  | .uri => { c with uri := some value }
  | .base => { c with base := some value }
  | .bindDn => { c with bindDn := some value }
  | .bindPassword => { c with bindPassword := some value }
  | .certificate => { c with certificate := some (Path.ofString value) }
  | .hostName => { c with hostName := some value }

def withHost (c : ModuleConfig) (host : String) : ModuleConfig := { c with hostName := some host }

def renderLine (key value : String) : String := key ++ " = " ++ value ++ "\n"

/-- The text of the file: a line for every setting that has a value. -/
def render (c : ModuleConfig) : String :=
  Setting.all.foldl
    (fun text s => match c.get? s with
      | some value => text ++ renderLine s.key value
      | none => text) ""

inductive Line where
  | nothing
  | assigns (key value : String)
  | malformed
  deriving DecidableEq, Repr

def Line.ofChars (line : List Char) : Line :=
  match Text.trimStart line with
  | [] => .nothing
  | '#' :: _ => .nothing
  | line =>
    match Text.splitOnce '=' line with
    | none => .malformed
    | some (key, value) =>
      .assigns (String.ofList (Text.trim key)) (String.ofList (Text.trim value))

/-- The configuration after an assignment. A key that is not known changes nothing. -/
def assign (c : ModuleConfig) (key value : String) : ModuleConfig :=
  match Setting.ofKey? key with
  | some s => c.set s value
  | none => c

/-- Reads lines, the first of which has this number, on top of a configuration. -/
def readLines (c : ModuleConfig) : Nat → List (List Char) → Except Misuse ModuleConfig
  | _, [] => .ok c
  | number, line :: rest =>
    match Line.ofChars line with
    | .nothing => c.readLines (number + 1) rest
    | .assigns key value => (c.assign key value).readLines (number + 1) rest
    | .malformed => .error (.noSeparator number)

def parse (text : String) : Except Misuse ModuleConfig :=
  empty.readLines 1 (Text.lines text.toList)

/-- The line that puts the account module at `module` in charge of a service, with the path of its
configuration if it has one. -/
def serviceLine (module : Path) (config : Option Path) : String :=
  "account required " ++ module.display ++
    (match config with
      | some path => " config=" ++ path.display
      | none => "") ++ "\n"

end ModuleConfig

end HostAccess
