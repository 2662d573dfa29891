import HostAccess.Text.Ranges

/-!
# White space

Blank characters are those with the White_Space property of Unicode, which holds more than the
ASCII blanks: no-break space, the line and paragraph separators, the ideographic space. Trimming
takes blanks away at the ends and nothing else.
-/
namespace HostAccess.Text

def whiteSpace : Ranges := [
  (9, 13), (32, 32), (133, 133), (160, 160), (5760, 5760), (8192, 8202), (8232, 8233),
  (8239, 8239), (8287, 8287), (12288, 12288)]

def isBlank (c : Char) : Bool := whiteSpace.mem c.toNat

def trimStart (cs : List Char) : List Char := cs.dropWhile isBlank

def trimEnd (cs : List Char) : List Char := (cs.reverse.dropWhile isBlank).reverse

def trim (cs : List Char) : List Char := trimEnd (trimStart cs)

end HostAccess.Text
