import HostAccess.FileTree
import HostAccess.Glob.Pattern
import HostAccess.Text.Lines

/-!
# Searching by pattern

A pattern with slashes is matched part by part, from the root or from the working folder. A part
without wildcards is looked up; a part with wildcards is compared with the names in the folder that
has been reached, in ascending order. Names that are not text match nothing.
-/
namespace HostAccess.Glob

abbrev Component := List Token

def isHome (p : Path) : Bool := p.names == [Path.dot]

/-- The path of a name in the folder at `p`. The working folder is not named. -/
def under (p : Path) (name : Bytes) : Path := if isHome p then name else p.join name

/-- The paths of all that is in the folder at a path, each before what is in it. The number bounds
how deep folders are entered. -/
def below (t : FileTree) : Nat → Path → List Path
  | 0, _ => []
  | depth + 1, p => (t.list p).flatMap fun name => under p name :: below t depth (under p name)

def nameMatches (c : Component) (p : Path) : Bool :=
  match p.fileName?.bind Utf8.decode? with
  | some name => accepts c name.toList
  | none => false

def isAnyFolders (c : Component) : Bool := c.contains .anyFolders

/-- The parts with one `**` in the place of several in a row. -/
def collapse : List Component → List Component
  | a :: b :: rest =>
    if isAnyFolders a && isAnyFolders b then collapse (b :: rest) else a :: collapse (b :: rest)
  | cs => cs

/-- The names `.` and `..` match a part only if it begins with a dot; `..` comes first. -/
def specials (c : Component) : List Bytes :=
  if c.head? == some (.char '.') then
    [Path.dotDot, Path.dot].filter fun name => accepts c (name.map fun b => Char.ofNat b.toNat)
  else []

/-- How deep the entries of a tree lie at most. -/
def depth (t : FileTree) : Nat := t.entries.foldl (fun d e => max d e.1.length) 0

/-- How many names lead to a folder at most. Each link on the way may lead back to the root. -/
def reach (t : FileTree) : Nat := (FileTree.linkLimit + 1) * (depth t + 1)

/-- All paths that go on from `p` by names that match the parts. -/
def expand (t : FileTree) : List Component → Path → List Path
  | [], p => [p]
  | c :: rest, p =>
    match literal? c with
    | some name =>
      let bytes := Utf8.encode (String.ofList name)
      let next := if isHome p then bytes else p.join bytes
      let found := if bytes == Path.dot || bytes == Path.dotDot then t.isFolder p else t.has next
      if found then expand t rest next else []
    | none =>
      if !t.isFolder p then []
      else if isAnyFolders c then
        match rest with
        | [] => (below t (reach t) p).filter t.isFolder
        | c :: rest =>
          (below t (reach t) p).flatMap fun q =>
            if nameMatches c q then expand t rest q else []
      else
        (specials c).flatMap (fun name => expand t rest (p.join name)) ++
          ((t.list p).map (under p)).flatMap fun q =>
            if nameMatches c q then expand t rest q else []

/-- The parts of a pattern. A final slash ends the last part and does not begin another. -/
def parts (pattern : List Char) : List (List Char) :=
  let pieces := Pieces.split '/' pattern
  if pieces.getLast? == some [] then pieces.dropLast else pieces

/-- The paths that match a pattern, in the order in which they are found. The pattern has to be
right as a whole and part by part. A final slash asks for folders. -/
def search (t : FileTree) (pattern : String) : Except Fault (List Path) := do
  let cs := pattern.toList
  let _ ← tokens cs
  let fromRoot := cs.head? == some '/'
  let components ← (parts (if fromRoot then cs.tail else cs)).mapM tokens
  let found := expand t (collapse components) (if fromRoot then [Path.slash] else Path.dot)
  return if cs.getLast? == some '/' then found.filter t.isFolder else found

end HostAccess.Glob
