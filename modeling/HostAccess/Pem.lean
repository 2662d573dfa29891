import HostAccess.Base64
import HostAccess.Pieces
import HostAccess.Text.Utf8

/-!
# Blocks of binary data in a text

A file holds blocks, each between a line that begins it and a line that ends it and both of which
name its kind. What is outside the blocks is passed over, and so are blocks of unknown kinds. A block
of a known kind is written in base 64. A block that is begun has to be ended; until it is, another
beginning changes its kind alone.
-/
namespace HostAccess.Pem

def beginning : Bytes := Utf8.encode "-----BEGIN "

/-- What the line that ends a block begins with, in front of the kind. -/
def ending : Bytes := Utf8.encode "-----END "

def dash : UInt8 := 0x2D

def dashes : Bytes := List.replicate 5 dash

def certificate : Bytes := Utf8.encode "CERTIFICATE"

def kinds : List Bytes :=
  certificate :: ["PUBLIC KEY", "RSA PRIVATE KEY", "PRIVATE KEY", "EC PRIVATE KEY", "X509 CRL",
    "CERTIFICATE REQUEST", "ECHCONFIG"].map Utf8.encode

/-- The lines of a file. A line ends at a line feed or at a carriage return. -/
def lines (contents : Bytes) : List Bytes := (Pieces.split 0x0A contents).flatMap (Pieces.split 0x0D)

/-- The dashes at the end of a line, which is given from its end, and the blanks among them: the
number of dashes, and what stands before the first. -/
def closing (count : Nat) (before : Bytes) : Bytes → Nat × Bytes
  | [] => (count, before)
  | b :: rest =>
    if b == dash then closing (count + 1) rest rest
    else if b == 0x20 then closing count before rest
    else (count, before)

/-- The kind of the block that a line begins. `none` if the line begins none, `some none` if it
begins one and is not closed by exactly five dashes. -/
def begins? (line : Bytes) : Option (Option Bytes) :=
  if beginning.isPrefixOf line then
    let (count, before) := closing 0 line.reverse line.reverse
    some (if count = dashes.length then some (before.reverse.drop beginning.length) else none)
  else none

def ends (kind line : Bytes) : Bool := (ending ++ kind ++ dashes).isPrefixOf line

/-- The contents of the certificates in some lines; `none` if a block cannot be read. The kind and
the text of the block that is open come first. -/
def blocks : Option (Bytes × Bytes) → List Bytes → Option (List Bytes)
  | none, [] => some []
  | some _, [] => none
  | state, line :: rest =>
    match begins? line, state with
    | some none, _ => none
    | some (some kind), _ => blocks (some (kind, (state.map (·.2)).getD [])) rest
    | none, none => blocks none rest
    | none, some (kind, text) =>
      if !ends kind line then blocks (some (kind, text ++ line)) rest
      else if !kinds.contains kind then blocks none rest
      else do
        let block ← Base64.decode? text
        let others ← blocks none rest
        return if kind == certificate then block :: others else others

def certificates? (contents : Bytes) : Option (List Bytes) := blocks none (lines contents)

end HostAccess.Pem
