import HostAccess.Text.Case.Tables
import HostAccess.Text.Case.Context

/-!
# Full case mapping

Host names and domains are compared without regard to case, and realms are written in capitals, over
all of Unicode. Lower-casing is a map of single characters but for two: `İ` becomes two characters,
and a capital sigma becomes `ς` at the end of a word and `σ` elsewhere. A sigma ends a word if the
next character that counts before it is cased and the next that counts after it is not.
-/
namespace HostAccess.Text

namespace Case

def leadsCased : List Char → Bool
  | [] => false
  | c :: rest =>
    if ignorableRanges.mem c.toNat then leadsCased rest else casedRanges.mem c.toNat

/-- The lower-case form of a capital sigma between these characters; `before` is in reverse. -/
def finalSigma (before after : List Char) : Char :=
  if leadsCased before && !leadsCased after then 'ς' else 'σ'

def lowerChar (c : Char) : List Char :=
  if c = 'İ' then ['i', '\u0307']
  else match image? lowerRuns c.toNat with
    | some n => [Char.ofNat n]
    | none => [c]

def upperChar (c : Char) : List Char :=
  match upperExpansions.lookup c.toNat with
  | some ns => ns.map Char.ofNat
  | none => match image? upperRuns c.toNat with
    | some n => [Char.ofNat n]
    | none => [c]

/-- Lower case of the text that follows `before`, which is given in reverse. -/
def lowerAfter (before : List Char) : List Char → List Char
  | [] => []
  | c :: rest =>
    (if c = 'Σ' then [finalSigma before rest] else lowerChar c) ++ lowerAfter (c :: before) rest

end Case

def lower (s : String) : String := String.ofList (Case.lowerAfter [] s.toList)

def upper (s : String) : String := String.ofList (s.toList.flatMap Case.upperChar)

def lowerAscii (s : String) : String := String.ofList (s.toList.map Char.toLower)

def upperAscii (s : String) : String := String.ofList (s.toList.map Char.toUpper)

end HostAccess.Text
