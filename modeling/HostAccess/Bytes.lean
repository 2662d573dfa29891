/-!
# Byte strings

File names, file contents and environment values are byte strings: they need not be text. They are
lists, so that a function on them is a recursion on the data, and they are ordered byte by byte with
the shorter first, which is the order of a sorted directory listing.
-/
namespace HostAccess

abbrev Bytes := List UInt8

namespace Bytes

/-- Whether `a` comes no later than `b` in the order by bytes. -/
def le : Bytes → Bytes → Bool
  | [], _ => true
  | _ :: _, [] => false
  | x :: a, y :: b => x < y || (x == y && le a b)

/-- Whether the byte string holds a NUL, which no file name, argument or variable can. -/
def hasNul (b : Bytes) : Bool := b.contains 0

end Bytes

end HostAccess
