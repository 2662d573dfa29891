import HostAccess.Number.Binary64

/-!
# JSON values

The values that travel in commands and replies. The members of an object are sorted by key, byte by
byte, and no key occurs twice, so equal objects are written alike.
-/
namespace HostAccess.Json

/-- A number: an integer from -2^63 up to below 2^64, or a finite binary fraction. -/
inductive Number where
  | integer (n : Int)
  | real (x : Binary64)
  deriving DecidableEq, Repr

inductive Value where
  | null
  | bool (b : Bool)
  | number (n : Number)
  | text (s : String)
  | list (items : List Value)
  | object (members : List (String × Value))
  deriving Repr, Inhabited

abbrev Members := List (String × Value)

/-- Puts a member in its place; the member with that key, if there is one, is replaced. -/
def insert (key : String) (value : Value) : Members → Members
  | [] => [(key, value)]
  | (k, v) :: rest =>
    if key < k then (key, value) :: (k, v) :: rest
    else if key = k then (key, value) :: rest
    else (k, v) :: insert key value rest

/-- The members in order of their keys; of members with one key the last counts. -/
def sorted (members : List (String × Value)) : Members :=
  members.foldl (fun sorted (k, v) => insert k v sorted) []

namespace Value

/-- The member of an object; no other value has members. -/
def member? (key : String) : Value → Option Value
  | .object members => members.lookup key
  | _ => none

def natural? : Value → Option Nat
  | .number (.integer n) => if 0 ≤ n then some n.toNat else none
  | _ => none

def items? : Value → Option (List Value)
  | .list items => some items
  | _ => none

def texts (names : List String) : Value := .list (names.map .text)

end Value

end HostAccess.Json
