import CertSync.Der.AlgorithmId
import CertSync.Key.Error

/-!
# Private key documents

A private key together with the algorithm it is for, in the clear. The algorithm settles the family
of the key before the key itself is looked at.
-/

namespace CertSync

/-- A document in PKCS #8: the algorithm, the key in the algorithm's own form, and all its bytes. -/
structure KeyDocument where
  algorithm : AlgorithmId
  key : Bytes
  der : Bytes
deriving DecidableEq

namespace KeyDocument

/-! ## Identifiers -/

/-- The identifier 1.2.840.113549.1.1.1. -/
def rsaEncryption : ObjectId := ⟨[0x2A, 0x86, 0x48, 0x86, 0xF7, 0x0D, 0x01, 0x01, 0x01]⟩

/-- The identifier 1.2.840.10045.2.1. -/
def ecPublicKey : ObjectId := ⟨[0x2A, 0x86, 0x48, 0xCE, 0x3D, 0x02, 0x01]⟩

/-- The identifiers of the three curves that have a family here. -/
def curveId : Curve → ObjectId
  | .p256 => ⟨[0x2A, 0x86, 0x48, 0xCE, 0x3D, 0x03, 0x01, 0x07]⟩
  | .p384 => ⟨[0x2B, 0x81, 0x04, 0x00, 0x22]⟩
  | .p521 => ⟨[0x2B, 0x81, 0x04, 0x00, 0x23]⟩

/-- The curve that an identifier names, if it is one of the three. -/
def curve? (id : ObjectId) : Option Curve :=
  [Curve.p256, Curve.p384, Curve.p521].find? fun c => curveId c = id

/-! ## Reading -/

/-- The public key that may follow the private one, and the fields after it. Attributes, which
have number zero, are passed over. -/
def publicKey? : List DerElement → Option (Option Bytes × List DerElement)
  | [] => some (none, [])
  | e :: rest =>
    match DerElement.contextNumber? e.tag with
    | some 0 => publicKey? rest
    | some 1 =>
      if DerElement.isConstructed e.tag then none
      else (DerElement.wholeBits? e.contents).map fun bits => (some bits, rest)
    | _ => some (none, e :: rest)

/-- A field of a later version: one element under a tag of its own. -/
def isExtension (e : DerElement) : Bool :=
  (DerElement.contextNumber? e.tag).isSome && DerElement.isConstructed e.tag &&
    (DerElement.readOne? e.contents).isSome

/-- A document of either version. A public key belongs to the second one alone, and what follows it
must be extensions. -/
def ofDer? (bytes : Bytes) : Option KeyDocument := do
  let version :: algorithm :: key :: fields ← (← DerElement.readOne? bytes).sequence? | none
  let version ← version.naturalBelow? 2
  let algorithm ← AlgorithmId.ofDer? algorithm
  let key ← key.octets?
  let (publicKey, extensions) ← publicKey? fields
  guard (decide (version = 1) = publicKey.isSome)
  guard (extensions.all isExtension)
  return { algorithm, key, der := bytes }

/-- The document of the first version that holds a key and nothing else. -/
def of (algorithm : AlgorithmId) (key : Bytes) : KeyDocument where
  algorithm
  key
  der := (DerElement.sequence [.natural 0, algorithm.toDer, .octets key]).write

/-! ## Family -/

/-- The family that the algorithm settles. A key on a curve must name its curve. -/
def family (document : KeyDocument) : Except KeyDefect KeyFamily :=
  if document.algorithm.id = rsaEncryption then .ok .rsa
  else if document.algorithm.id ≠ ecPublicKey then .error (.algorithm document.algorithm.id)
  else
    match document.algorithm.parameters >>= DerElement.objectId? with
    | none => .error .unnamedCurve
    | some id =>
      match curve? id with
      | some curve => .ok (.elliptic curve)
      | none => .error (.curve id)

end KeyDocument

end CertSync
