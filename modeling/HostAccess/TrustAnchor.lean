import HostAccess.Der
import HostAccess.Pem

/-!
# Trust anchors

A server can be trusted by certificates that are there before. Such a certificate has to have the
form of one, of the third version or of the first, which names no version and has no extensions. Who
signed it, for how long it holds and what its keys are is not looked at here.
-/
namespace HostAccess.TrustAnchor

structure Extension where
  id : Bytes
  critical : Bool
  value : Bytes
  deriving DecidableEq, Repr

/-- Reads whether an extension is critical. It is not if nothing is said. -/
def readCritical (input : Bytes) : Option (Bool × Bytes) :=
  if input.head? != some Der.Tag.boolean then some (false, input)
  else
    match Der.element? Der.Tag.boolean input with
    | some ([0xFF], rest) => some (true, rest)
    | some ([0x00], rest) => some (false, rest)
    | _ => none

def Extension.read? (input : Bytes) : Option Extension := do
  let (id, rest) ← Der.element? Der.Tag.identifier input
  let (critical, rest) ← readCritical rest
  return { id, critical, value := ← Der.only? Der.Tag.octets rest }

/-- The extension that says what a key is used for. Its value alone is not a sequence. -/
def keyUsage : UInt8 := 15

/-- The last parts of the identifiers of extensions that are known: key usage, other names, basic
constraints, constraints on names, lists of revocations, extended key usage. -/
def knownExtensions : List UInt8 := [keyUsage, 17, 19, 30, 31, 37]

def Extension.known? (e : Extension) : Option UInt8 :=
  match e.id with
  | [0x55, 0x1D, n] => if knownExtensions.contains n then some n else none
  | _ => none

/-- Whether the extensions can be told. A known one is there once at most and has a value of its
form; an unknown one is not critical. The known ones that came before are `seen`. -/
def areExtensions (seen : List UInt8) : List Extension → Bool
  | [] => true
  | e :: rest =>
    match e.known? with
    | none => !e.critical && areExtensions seen rest
    | some n =>
      !seen.contains n && (n == keyUsage || (Der.only? Der.Tag.sequence e.value).isSome) &&
        areExtensions (n :: seen) rest

/-- Whether what follows the other parts of a certificate is its extensions, or nothing. -/
def isTail (input : Bytes) : Bool :=
  input.isEmpty || (do
    let extensions ← Der.only? Der.Tag.sequence (← Der.only? (Der.Tag.numbered 3) input)
    (← Der.all? Der.Tag.sequence extensions).mapM Extension.read?).any (areExtensions [])

def thirdVersion : Bytes := [Der.Tag.integer, 1, 2]

/-- The parts of every version: the number of the certificate, the algorithm of its signature, the
issuer, the time, the subject and the key. What is held by the algorithm's part, and what follows. -/
def readParts (input : Bytes) : Option (Bytes × Bytes) := do
  let (_, rest) ← Der.element? Der.Tag.integer input
  let (algorithm, rest) ← Der.element? Der.Tag.sequence rest
  let (_issuer, rest) ← Der.element? Der.Tag.sequence rest
  let (_time, rest) ← Der.element? Der.Tag.sequence rest
  let (_subject, rest) ← Der.element? Der.Tag.sequence rest
  let (_key, rest) ← Der.element? Der.Tag.sequence rest
  return (algorithm, rest)

/-- Whether something can be certified by a signature of this algorithm. In the third version both
have to name the same algorithm. -/
def isCertified (body algorithm : Bytes) : Bool :=
  match Der.element? (Der.Tag.numbered 0) body with
  | some (version, rest) =>
    version == thirdVersion && (readParts rest).any fun (named, rest) =>
      named == algorithm && isTail rest
  | none => (readParts body).any fun (_, rest) => rest.isEmpty

def isWhole (bits : Bytes) : Bool := bits.head? == some 0

/-- Whether a block has the form of a certificate: what is certified, the algorithm, and the
signature. -/
def isCertificate (block : Bytes) : Bool :=
  (do
    let (body, rest) ← Der.element? Der.Tag.sequence (← Der.only? Der.Tag.sequence block)
    let (algorithm, rest) ← Der.element? Der.Tag.sequence rest
    return (body, algorithm, ← Der.only? Der.Tag.bits rest)).any
      fun (body, algorithm, signature) => isWhole signature && isCertified body algorithm

/-- Whether the certificates of a file can be trusted. A file without any is taken as it is. -/
def isUsable (contents : Bytes) : Bool := (Pem.certificates? contents).any (·.all isCertificate)

end HostAccess.TrustAnchor
