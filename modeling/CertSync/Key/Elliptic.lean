import CertSync.Key.CurveGroup
import CertSync.Key.Document

/-!
# Elliptic curve keys

A key is a number below the order of its group. It is written with all its bytes and with its
public point, whether or not the point came with it.
-/

namespace CertSync

/-- The number that a key is, whichever its curve. -/
structure EllipticKey where
  secret : Nat
deriving DecidableEq

namespace EllipticKey

/-- The fewest bytes that a key is read from; missing ones in front are zero. -/
def leastSize : Nat := 24

/-- The curve that may be named, and the public key that may follow it. A first field of number
zero names the curve; others of that number are passed over. -/
def publicKey? : List DerElement → Option (Option Bytes)
  | [] => some none
  | e :: rest =>
    if e.tag = 0xA1 then do
      let bits ← (← DerElement.readOne? e.contents).bits?
      guard rest.isEmpty
      return some bits
    else if DerElement.contextNumber? e.tag = some 0 then publicKey? rest
    else none

/-- Whether a first field of number zero holds an identifier, as it must. -/
def namesCurve (fields : List DerElement) : Bool :=
  match fields with
  | e :: _ =>
    if DerElement.contextNumber? e.tag = some 0 then
      DerElement.isConstructed e.tag &&
        (DerElement.readOne? e.contents >>= DerElement.objectId?).isSome
    else true
  | [] => true

/-- The public key that came with a key is that key's point, written in either form. -/
def matchesPublic (g : CurveGroup) (key : EllipticKey) : Option Bytes → Bool
  | none => true
  | some bytes =>
    let point := g.publicPoint key.secret
    bytes = g.wholeBytes point || bytes = g.halfBytes point

/-- A key of version one for a group. The number lies in the group, and a public key that comes with
it belongs to it. -/
def ofDer? (g : CurveGroup) (bytes : Bytes) : Option EllipticKey := do
  let version :: secret :: fields ← (← DerElement.readOne? bytes).sequence? | none
  guard (version.naturalBelow? 256 = some 1)
  let secret ← secret.octets?
  guard (namesCurve fields)
  let publicKey ← publicKey? fields
  guard (leastSize ≤ secret.length ∧ secret.length ≤ g.size)
  let key : EllipticKey := ⟨Bytes.toNat secret⟩
  guard (1 ≤ key.secret ∧ key.secret < g.order)
  guard (matchesPublic g key publicKey)
  return key

/-- The key with as many bytes as its curve has, and with its point written whole. -/
def toDer (g : CurveGroup) (key : EllipticKey) : Bytes :=
  (DerElement.sequence [
    .natural 1,
    .octets (Bytes.ofNat g.size key.secret),
    .explicit 1 (.bits (g.wholeBytes (g.publicPoint key.secret)))]).write

/-- The algorithm that documents of this family name, with the curve for its parameters. -/
def algorithm (curve : Curve) : AlgorithmId :=
  ⟨KeyDocument.ecPublicKey, some (.objectId (KeyDocument.curveId curve))⟩

def toDocument (curve : Curve) (g : CurveGroup) (key : EllipticKey) : KeyDocument :=
  .of (algorithm curve) (key.toDer g)

end EllipticKey

end CertSync
