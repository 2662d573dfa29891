import HostAccess.Pieces

/-!
# Lines

A line ends at a line feed; a carriage return right before it belongs to the end of the line. A last
line without a line feed counts if it holds anything.
-/
namespace HostAccess.Text

def splitOnce (sep : Char) : List Char → Option (List Char × List Char)
  | [] => none
  | c :: rest =>
    if c = sep then some ([], rest)
    else (splitOnce sep rest).map fun (before, after) => (c :: before, after)

/-- The line without the carriage return that ends it. -/
def dropReturn (line : List Char) : List Char :=
  match line.getLast? with
  | some '\r' => line.dropLast
  | _ => line

/-- The lines of a text. The piece after the last line feed is a line only if it holds anything, and
it keeps a carriage return at its end. -/
def lines (text : List Char) : List (List Char) :=
  let pieces := Pieces.split '\n' text
  let ended := pieces.dropLast.map dropReturn
  match pieces.getLast? with
  | some [] | none => ended
  | some last => ended ++ [last]

def joinWith (sep : String) : List String → String
  | [] => ""
  | [s] => s
  | s :: rest => s ++ sep ++ joinWith sep rest

end HostAccess.Text
