import HostAccess.Harness

/-!
# A scripted checker

The bench's checker notes what it is shown and answers as it is told. Before it answers it may meddle
with files and variables; what fails of that does not count. When the answers are used up, a table
decides.
-/
namespace HostAccess.Bench

inductive Meddling where
  | remove (path : Path)
  | removeTree (path : Path)
  | write (path : Path) (contents : Bytes) (executable : Bool)
  | setVariable (name value : Bytes)
  | unsetVariable (name : Bytes)
  deriving Repr

/-- The locations of the folders that a list of names goes through, made where they are missing.
`none` if a file is in the way. -/
def makeFolders (t : FileTree) : Location → List Bytes → Option (FileTree × Location)
  | l, [] => if t.isFolderAt l then some (t, l) else none
  | l, name :: rest =>
    match t.walk FileTree.linkLimit l [name] with
    | .ok (l, _) => makeFolders t l rest
    | .error n =>
      if n = Errno.noEntry && (t.entryAt? (l ++ [name])).isNone then
        makeFolders (t.put (l ++ [name]) .folder) (l ++ [name]) rest
      else none

/-- Writes a file together with the folders above it. A path that ends in a slash is that of a
folder. -/
def lay (t : FileTree) (p : Path) (contents : Bytes) (executable : Bool) : Option FileTree :=
  if Bytes.hasNul p || p.isEmpty then none
  else
    match FileTree.splitLast p with
    | none => some t
    | some (before, name, true) => (makeFolders t (t.start p) (before ++ [name])).map (·.1)
    | some (before, _, false) => do
      let (t, _) ← makeFolders t (t.start p) before
      let t ← (t.write p contents).toOption
      let l ← (t.locate p).toOption
      return t.putAll contents { t.modeAt l with executable } (t.namesOf l)

/-- Removes a folder with all that is in it. The working folder and the root are kept. Of a link to a
folder only the link is removed. -/
def removeTree (t : FileTree) (p : Path) : Option FileTree :=
  match (t.place p).toOption.join.map fun at_ => (at_.location, t.entryAt? at_.location) with
  | some (l, some (.link _)) => some (t.erase l)
  | _ =>
    match t.locate p with
    | .ok l =>
      if t.isFolderAt l && !l.isPrefixOf t.home then some (t.prune l) else none
    | .error _ => none

def Meddling.perform {ν : Type} (w : World ν) : Meddling → World ν
  | .remove path =>
    match w.files.remove path with
    | .ok files => { w with files }
    | .error _ => w
  | .removeTree path => { w with files := (Bench.removeTree w.files path).getD w.files }
  | .write path contents executable =>
    { w with files := (lay w.files path contents executable).getD w.files }
  | .setVariable name value =>
    if Environment.accepts name value then
      { w with environment := w.environment.set name value }
    else w
  | .unsetVariable name => { w with environment := w.environment.unset name }

structure Answer where
  meddling : List Meddling
  verdict : Verdict

/-- A row of the table: what it is about, where a cell that is absent is about everything. -/
structure Row where
  user : Option String
  service : Option String
  host : Option String
  code : Int32

structure Sighting where
  user : String
  service : String
  hostName : Option Bytes
  serviceFile : Option Bytes
  configFile : Option Bytes

/-- What the scripted checker goes by, and what it has been shown, oldest first. -/
structure Script where
  answers : List Answer
  table : List Row
  seen : List Sighting

def covers (cell : Option String) (value : Option String) : Bool :=
  cell.isNone || cell == value

/-- The code that the table gives; a denial if no row is about the check. -/
def tableCode (table : List Row) (user service : String) (host : Option String) : Int32 :=
  match table.find? fun row =>
      covers row.user (some user) && covers row.service (some service) && covers row.host host with
  | some row => row.code
  | none => Pam.Result.permissionDenied.code

end HostAccess.Bench
