import HostAccess.Path
import HostAccess.SystemError

/-!
# Files, folders and links

The files that a run sees. Every entry is kept under its location, the list of names that leads to
it from the root. Whether a path leads anywhere is decided name by name: every name but the last has
to be that of a folder, or of a link that leads to one. What is written at a link goes to the file
that the link leads to; what is removed is the link itself. A file may have several names, and what is
written under one of them is found under all.

The system may refuse to change what is at a location, for want of a permission or of space. What it
refuses is known of each location beforehand; whatever there is can be read. Devices and pipes are left
out.
-/
namespace HostAccess

abbrev Location := List Bytes

/-- What is known of a file beside its contents. Names with the same serial are names of one file. -/
structure Mode where
  executable : Bool
  serial : Option Nat
  deriving DecidableEq, Repr

def Mode.plain : Mode := ⟨false, none⟩

def Mode.program : Mode := ⟨true, none⟩

inductive Entry where
  | folder
  | file (contents : Bytes) (mode : Mode)
  | link (target : Path)
  deriving DecidableEq, Repr

/-- What the system refuses at a location, each with the number that it gives as the reason: to open a
file for writing, to let it grow beyond so many bytes, and to remove a name. -/
structure Bars where
  opening : Option Int := none
  filling : Option (Nat × Int) := none
  removal : Option Int := none
  deriving DecidableEq, Repr

/-- Where the writing of these contents stops, if they are not taken as a whole. -/
def Bars.cut? (b : Bars) (contents : Bytes) : Option (Nat × Int) :=
  b.filling.filter fun (room, _) => room < contents.length

structure FileTree where
  entries : List (Location × Entry)
  home : Location
  bars : List (Location × Bars) := []
  deriving Repr

namespace FileTree

def longestName : Nat := 255

def pathLimit : Nat := 4096

/-- How many links are followed to find one place. -/
def linkLimit : Nat := 40

/-! ## Entries -/

/-- What stands at a location. The root is a folder. -/
def entryAt? (t : FileTree) (l : Location) : Option Entry :=
  if l.isEmpty then some .folder else t.entries.lookup l

def isFolderAt (t : FileTree) (l : Location) : Bool := t.entryAt? l == some .folder

def barsAt (t : FileTree) (l : Location) : Bars := (t.bars.lookup l).getD {}

/-- The mode of the file at a location, or that of a file that is made there. -/
def modeAt (t : FileTree) (l : Location) : Mode :=
  match t.entryAt? l with
  | some (.file _ mode) => mode
  | _ => .plain

def serialAt? (t : FileTree) (l : Location) : Option Nat := (t.modeAt l).serial

/-- All names of the file at a location. -/
def namesOf (t : FileTree) (l : Location) : List Location :=
  match t.serialAt? l with
  | none => [l]
  | some serial => (t.entries.map Prod.fst).filter fun m => t.serialAt? m == some serial

def put (t : FileTree) (l : Location) (e : Entry) : FileTree :=
  { t with entries := (l, e) :: t.entries.filter (·.1 != l) }

def erase (t : FileTree) (l : Location) : FileTree :=
  { t with entries := t.entries.filter (·.1 != l) }

def prune (t : FileTree) (l : Location) : FileTree :=
  { t with entries := t.entries.filter fun e => !l.isPrefixOf e.1 }

/-- Puts a file under each of some names. -/
def putAll (t : FileTree) (contents : Bytes) (mode : Mode) (names : List Location) : FileTree :=
  names.foldl (fun t l => t.put l (.file contents mode)) t

/-- Puts contents into the file at a location, under all its names. The file keeps its mode. -/
def store (t : FileTree) (l : Location) (contents : Bytes) : FileTree :=
  t.putAll contents (t.modeAt l) (t.namesOf l)

/-- The name of a location that lies directly in the folder `l`. -/
def nameIn? (l : Location) (m : Location) : Option Bytes :=
  match m.getLast? with
  | some name => if m.dropLast == l then some name else none
  | none => none

/-- The names of the entries of a folder, in ascending order and each once. -/
def namesIn (t : FileTree) (l : Location) : List Bytes :=
  (t.entries.filterMap fun e => nameIn? l e.1).eraseDups.mergeSort Bytes.le

/-! ## Where a path leads -/

/-- Where a name leads: to a location, or wherever a link leads from here. -/
inductive Lead where
  | place (l : Location)
  | link (target : Path)
  deriving DecidableEq, Repr

def child (t : FileTree) (l : Location) (name : Bytes) : Except Int Lead :=
  if !t.isFolderAt l then .error Errno.notFolder
  else if name.isEmpty || name == Path.dot then .ok (.place l)
  else if name == Path.dotDot then .ok (.place l.dropLast)
  else if longestName < name.length then .error Errno.nameTooLong
  else match t.entryAt? (l ++ [name]) with
    | some (.link target) => .ok (.link target)
    | some .folder | some (.file ..) => .ok (.place (l ++ [name]))
    | none => .error Errno.noEntry

/-- Where the names of a path begin that is met at a location. -/
def startFrom (l : Location) (p : Path) : Location := if p.isAbsolute then [] else l

/-- Goes on from a location by names, one after the other, up to the first link. -/
def along (t : FileTree) (links : Nat)
    (follow : Location → List Bytes → Except Int (Location × Nat)) :
    Location → List Bytes → Except Int (Location × Nat)
  | l, [] => .ok (l, links)
  | l, name :: rest =>
    match t.child l name with
    | .error n => .error n
    | .ok (.place m) => t.along links follow m rest
    | .ok (.link target) => follow (startFrom l target) (Pieces.split Path.slash target ++ rest)

/-- Where names lead from a location, and how many more links may be followed there if this many may
be on the way. -/
def walk (t : FileTree) : Nat → Location → List Bytes → Except Int (Location × Nat)
  | 0 => t.along 0 fun _ _ => .error Errno.tooManyLinks
  | links + 1 => t.along (links + 1) (t.walk links)

def start (t : FileTree) (p : Path) : Location := startFrom t.home p

/-- Refuses the paths that no entry can have. -/
def screen (p : Path) : Except SystemError Unit :=
  if Bytes.hasNul p then .error .nulInFileName
  else if p.isEmpty then .error (.errno Errno.noEntry)
  else if pathLimit ≤ p.length then .error (.errno Errno.nameTooLong)
  else .ok ()

def locate (t : FileTree) (p : Path) : Except SystemError Location := do
  screen p
  match t.walk linkLimit (t.start p) (Pieces.split Path.slash p) with
  | .ok (l, _) => .ok l
  | .error n => .error (.errno n)

def has (t : FileTree) (p : Path) : Bool := (t.locate p).toOption.isSome

def isFolder (t : FileTree) (p : Path) : Bool :=
  match t.locate p with
  | .ok l => t.isFolderAt l
  | .error _ => false

/-- The last name of a path, what comes before it, and whether slashes follow it. `none` if the path
has no names, as the root has none. -/
def splitLast (p : Path) : Option (List Bytes × Bytes × Bool) :=
  let pieces := (Pieces.split Path.slash p).reverse
  match pieces.dropWhile (·.isEmpty) with
  | [] => none
  | name :: before => some (before.reverse, name, pieces.head? == some [])

/-- A place where an entry may be: the folder, the name in it, whether slashes follow it, and how many
links may be followed from there. -/
structure Place where
  folder : Location
  name : Bytes
  slashed : Bool
  links : Nat
  deriving DecidableEq, Repr

def Place.location (at_ : Place) : Location := at_.folder ++ [at_.name]

/-- The place that a path is about which is met at a location: all names but the last have to lead to a
folder. `none` for a path that ends in `.` or `..`, or that is the root: it is about a folder, by no
name in another. -/
def placeFrom (t : FileTree) (links : Nat) (l : Location) (p : Path) : Except Int (Option Place) :=
  match splitLast p with
  | none => .ok none
  | some (before, name, slashed) =>
    match t.walk links l before with
    | .error n => .error n
    | .ok (folder, left) =>
      if !t.isFolderAt folder then .error Errno.notFolder
      else if name == Path.dot || name == Path.dotDot then .ok none
      else .ok (some ⟨folder, name, slashed, left⟩)

def place (t : FileTree) (p : Path) : Except SystemError (Option Place) := do
  screen p
  match t.placeFrom linkLimit (t.start p) p with
  | .ok found => .ok found
  | .error n => .error (.errno n)

/-- The location of the file that would be written at a place, which a link there is followed for. -/
def settleBy (t : FileTree) (follow : Place → Except Int Location) (at_ : Place) :
    Except Int Location :=
  if at_.slashed then .error Errno.isFolder
  else if longestName < at_.name.length then .error Errno.nameTooLong
  else match t.entryAt? at_.location with
    | some .folder => .error Errno.isFolder
    | some (.link target) =>
      match at_.links with
      | 0 => .error Errno.tooManyLinks
      | links + 1 =>
        match t.placeFrom links (startFrom at_.folder target) target with
        | .error n => .error n
        | .ok none => .error Errno.isFolder
        | .ok (some next) => follow next
    | some (.file ..) | none => .ok at_.location

/-- The location of the file that would be written at a place. Each link that is followed leaves fewer
to follow, so as many turns are enough. -/
def settle (t : FileTree) : Nat → Place → Except Int Location
  | 0 => t.settleBy fun _ => .error Errno.tooManyLinks
  | turns + 1 => t.settleBy (t.settle turns)

/-- The location of the file that would be written at a path. -/
def aim (t : FileTree) (p : Path) : Except SystemError Location :=
  match t.place p with
  | .error cause => .error cause
  | .ok none => .error (.errno Errno.isFolder)
  | .ok (some at_) =>
    match t.settle linkLimit at_ with
    | .ok l => .ok l
    | .error n => .error (.errno n)

/-! ## Reading, writing and removing -/

def read (t : FileTree) (p : Path) : Except SystemError Bytes := do
  match t.entryAt? (← t.locate p) with
  | some (.file contents _) => .ok contents
  | some .folder => .error (.errno Errno.isFolder)
  | some (.link _) | none => .error (.errno Errno.noEntry)

/-- Fills the file at a location. Its old contents are gone before the new ones are taken, so what is
not taken as a whole leaves a part. -/
def fill (t : FileTree) (l : Location) (contents : Bytes) :
    Except (SystemError × FileTree) FileTree :=
  match (t.barsAt l).opening with
  | some n => .error (.errno n, t)
  | none =>
    match (t.barsAt l).cut? contents with
    | some (room, n) => .error (.errno n, t.store l (contents.take room))
    | none => .ok (t.store l contents)

/-- Writes a file. If that fails, it is told why, and what the tree is then. -/
def write (t : FileTree) (p : Path) (contents : Bytes) : Except (SystemError × FileTree) FileTree :=
  match t.aim p with
  | .error cause => .error (cause, t)
  | .ok l => t.fill l contents

def remove (t : FileTree) (p : Path) : Except SystemError FileTree := do
  match ← t.place p with
  | none => .error (.errno Errno.isFolder)
  | some at_ =>
    if longestName < at_.name.length then .error (.errno Errno.nameTooLong)
    else match t.entryAt? at_.location with
      | none => .error (.errno Errno.noEntry)
      | some e =>
        if at_.slashed then .error (.errno (if e = .folder then Errno.isFolder else Errno.notFolder))
        else match (t.barsAt at_.location).removal with
          | some n => .error (.errno n)
          | none =>
            if e = .folder then .error (.errno Errno.isFolder) else .ok (t.erase at_.location)

/-- The names in the folder at a path; none if there is no folder. -/
def list (t : FileTree) (p : Path) : List Bytes :=
  match t.locate p with
  | .ok l => if t.isFolderAt l then t.namesIn l else []
  | .error _ => []

/-! ## New names -/

/-- Puts a new entry at a path. -/
def enter (t : FileTree) (p : Path) (e : Entry) : Except SystemError FileTree := do
  match ← t.place p with
  | none => .error (.errno Errno.alreadyThere)
  | some at_ =>
    if longestName < at_.name.length then .error (.errno Errno.nameTooLong)
    else if (t.entryAt? at_.location).isSome then .error (.errno Errno.alreadyThere)
    else if at_.slashed then .error (.errno Errno.noEntry)
    else .ok (t.put at_.location e)

/-- Makes a link. It may lead nowhere. -/
def makeLink (t : FileTree) (target p : Path) : Except SystemError FileTree :=
  if target.isEmpty then .error (.errno Errno.noEntry) else t.enter p (.link target)

/-- A serial that no file has. -/
def freshSerial (t : FileTree) : Nat :=
  t.entries.foldl (fun n e => match e.2 with
    | .file _ ⟨_, some serial⟩ => max n (serial + 1)
    | _ => n) 0

/-- Gives the file at the path `p` another name. -/
def makeName (t : FileTree) (p other : Path) : Except SystemError FileTree := do
  match ← t.place p with
  | none => .error (.errno Errno.notPermitted)
  | some at_ =>
    match t.entryAt? at_.location with
    | none => .error (.errno Errno.noEntry)
    | some .folder => .error (.errno Errno.notPermitted)
    | some e =>
      if at_.slashed then .error (.errno Errno.notFolder)
      else match e with
        | .file contents mode =>
          let e := Entry.file contents { mode with serial := some (mode.serial.getD t.freshSerial) }
          (t.enter other e).map fun t => t.put at_.location e
        | e => t.enter other e

end FileTree

end HostAccess
