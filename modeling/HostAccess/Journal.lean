/-!
# The journal of a run

Every part of a run writes records; a record has a target, which names the part, a level and a
message. Three components are shown, each under its own tag: a record belongs to a component if its
target is the name of the component, or continues that name after `::`. How much is shown is set by
a threshold. Warnings and errors carry the name of their level.
-/
namespace HostAccess

inductive Level where
  | error
  | warn
  | info
  | debug
  | trace
  deriving DecidableEq, Repr

namespace Level

/-- Levels as numbers: the less grave, the larger. -/
def rank : Level → Nat
  | .error => 1
  | .warn => 2
  | .info => 3
  | .debug => 4
  | .trace => 5

def name : Level → String
  | .error => "ERROR"
  | .warn => "WARN"
  | .info => "INFO"
  | .debug => "DEBUG"
  | .trace => "TRACE"

def isMarked : Level → Bool
  | .error | .warn => true
  | .info | .debug | .trace => false

end Level

/-- The least grave level that is shown; none shows nothing. -/
abbrev Threshold := Option Level

def Threshold.shows (threshold : Threshold) (level : Level) : Bool :=
  match threshold with
  | some last => level.rank ≤ last.rank
  | none => false

/-- The threshold of a name, in capitals or not. Other names are not known. -/
def Threshold.ofName? (name : String) : Option Threshold :=
  [("off", none), ("error", some Level.error), ("warn", some Level.warn),
    ("info", some Level.info), ("debug", some Level.debug), ("trace", some Level.trace)].lookup
      (String.ofList (name.toList.map Char.toLower))

/-- The threshold that a setting asks for: warnings, unless it is the name of another. -/
def Threshold.ofSetting (setting : Option String) : Threshold :=
  (setting.bind Threshold.ofName?).getD (some .warn)

structure Record where
  target : String
  level : Level
  message : String
  deriving DecidableEq, Repr

/-- A part of a run whose records are shown. -/
inductive Component where
  | rpc
  | fixture
  | pam
  deriving DecidableEq, Repr

namespace Component

def all : List Component := [.rpc, .fixture, .pam]

def target : Component → String
  | .rpc => "hbac::rpc"
  | .fixture => "hbac::fixture"
  | .pam => "hbac::pam"

def tag : Component → String
  | .rpc => "[rpc] "
  | .fixture => "[fixture] "
  | .pam => "[pam] "

def owns (c : Component) (target : String) : Bool :=
  target == c.target || (c.target ++ "::").toList.isPrefixOf target.toList

def line (c : Component) (r : Record) : String :=
  c.tag ++ (if r.level.isMarked then r.level.name ++ ": " else "") ++ r.message ++ "\n"

end Component

/-- What is shown for one record: the line of every component it belongs to. -/
def Record.shown (threshold : Threshold) (r : Record) : String :=
  Component.all.foldl
    (fun text c => if c.owns r.target && threshold.shows r.level then text ++ c.line r else text) ""

abbrev Journal := List Record

def Journal.render (threshold : Threshold) (journal : Journal) : String :=
  journal.foldl (fun text r => text ++ r.shown threshold) ""

end HostAccess
