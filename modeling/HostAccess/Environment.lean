import HostAccess.Bytes
import HostAccess.Text.Utf8

/-!
# Environment variables

The variables of a process: names with values, both byte strings. A variable that is absent is
another thing than one with an empty value.
-/
namespace HostAccess

/-- Names and values of variables. The first value of a name counts. -/
structure Environment where
  entries : List (Bytes × Bytes)
  deriving DecidableEq, Repr

namespace Environment

def empty : Environment := ⟨[]⟩

def get? (e : Environment) (name : Bytes) : Option Bytes := e.entries.lookup name

def unset (e : Environment) (name : Bytes) : Environment :=
  ⟨e.entries.filter (·.1 != name)⟩

def set (e : Environment) (name value : Bytes) : Environment :=
  ⟨(name, value) :: (e.unset name).entries⟩

def restore (e : Environment) (name : Bytes) (previous : Option Bytes) : Environment :=
  match previous with
  | some value => e.set name value
  | none => e.unset name

/-- Whether a variable can have this name: it is not empty and holds neither `=` nor NUL. -/
def isName (name : Bytes) : Bool := !name.isEmpty && !name.contains 0x3D && !Bytes.hasNul name

def accepts (name value : Bytes) : Bool := isName name && !Bytes.hasNul value

/-- Gives several variables their values; `none` if one of them cannot be like that. -/
def setAll? (e : Environment) : List (Bytes × Bytes) → Option Environment
  | [] => some e
  | (name, value) :: rest => if accepts name value then (e.set name value).setAll? rest else none

def text? (e : Environment) (name : String) : Option String :=
  (e.get? (Utf8.encode name)).bind Utf8.decode?

end Environment

end HostAccess
