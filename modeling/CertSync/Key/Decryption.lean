import CertSync.Key.Armour
import CertSync.Key.Container
import CertSync.Key.Elliptic
import CertSync.Key.Rsa

/-!
# Key decryption

From an armoured, encrypted private key to the same key in the clear, in the one form that its
family is written in. Each step has its own cause of failure: the armour, the container, the key.
-/

namespace CertSync

namespace KeyDocument

/-- The document as its family writes it, if the key is one of that family. A key on the largest
curve stays as it is. -/
def normalize? (document : KeyDocument) : KeyFamily → Option KeyDocument
  | .rsa => RsaKey.ofDocument? document >>= RsaKey.toDocument?
  | .elliptic .p256 =>
    (EllipticKey.ofDer? .p256 document.key).map (EllipticKey.toDocument .p256 .p256)
  | .elliptic .p384 =>
    (EllipticKey.ofDer? .p384 document.key).map (EllipticKey.toDocument .p384 .p384)
  | .elliptic .p521 => some document

/-- Keys in the clear are armoured under this label. -/
def label : String := "PRIVATE KEY"

def toText (document : KeyDocument) : String := { label, contents := document.der : Armour }.toText

/-- The text of a document's key, if the key is of the family that is expected. -/
def encode (document : KeyDocument) (expected : Option KeyFamily) : Except KeyDefect String := do
  let found ← document.family
  if let some expected := expected then
    if expected ≠ found then throw (.otherFamily expected found)
  match document.normalize? found with
  | some normal => return normal.toText
  | none => throw (.notEncodable found)

end KeyDocument

/-- The document in an encrypted container, if it opens and holds one. -/
def openDocument? (container passphrase : Bytes) : Option KeyDocument := do
  let container ← KeyContainer.ofDer? container
  KeyDocument.ofDer? (← container.open? passphrase)

/-- The key of an armoured container in the clear, in normal form. The armour is looked at first,
then the container, then the key. -/
def decryptKey (pem passphrase : Bytes) (expected : Option KeyFamily) : Except KeyError String :=
  match Armour.ofText? pem with
  | none => .error .malformed
  | some block =>
    match openDocument? block.contents passphrase with
    | none => .error .decryptionFailed
    | some document => (document.encode expected).mapError .unsupported

end CertSync
