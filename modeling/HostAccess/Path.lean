import HostAccess.Pieces
import HostAccess.Text.Utf8

/-!
# Paths

A path is a byte string: names between slashes, from the root if it starts with a slash and from the
working folder otherwise. A path is kept as it was given; no name in it is looked up here.
-/
namespace HostAccess

abbrev Path := Bytes

namespace Path

def slash : UInt8 := 0x2F

def ofString (s : String) : Path := Utf8.encode s

def isAbsolute (p : Path) : Bool := p.head? == some slash

def join (p q : Path) : Path :=
  if q.isAbsolute then q
  else if p.isEmpty || p.getLast? == some slash then p ++ q
  else p ++ slash :: q

def display (p : Path) : String := Utf8.lossy p

def dot : Bytes := [0x2E]

def dotDot : Bytes := [0x2E, 0x2E]

/-- The names of a path in order. Repeated and final slashes name nothing, and neither does `.`
unless it begins the path. -/
def names (p : Path) : List Bytes :=
  match Pieces.split slash p with
  | [] => []
  | first :: rest =>
    (if first.isEmpty then [] else [first]) ++ rest.filter fun n => !n.isEmpty && n != dot

/-- The last name of a path, if it is the name of an entry. -/
def fileName? (p : Path) : Option Bytes :=
  match p.names.getLast? with
  | some n => if n == dot || n == dotDot then none else some n
  | none => none

/-- What follows the last dot of a name. A name that is empty before its last dot is hidden and has
no extension. -/
def extensionOf? (name : Bytes) : Option Bytes :=
  match (Pieces.split 0x2E name).reverse with
  | last :: before@(_ :: _) => if Pieces.join 0x2E before.reverse == [] then none else some last
  | _ => none

def extension? (p : Path) : Option Bytes := p.fileName?.bind extensionOf?

end Path

end HostAccess
