import CertSync.Der.ObjectId
import CertSync.Resource.KeyAlgorithm

/-!
# Why a private key is refused

Three causes are told apart: there is no armoured block, the block does not open, or the key inside
cannot be used. A wrong passphrase and a damaged block look the same.
-/

namespace CertSync

def KeyFamily.name : KeyFamily → String
  | .rsa => "RSA"
  | .elliptic .p256 => "EC prime256v1"
  | .elliptic .p384 => "EC secp384r1"
  | .elliptic .p521 => "EC secp521r1"

/-- What is wrong with a key that was decrypted, by its identifiers and families. -/
inductive KeyDefect where
  | algorithm (id : ObjectId)
  | curve (id : ObjectId)
  | unnamedCurve
  | otherFamily (expected found : KeyFamily)
  | notEncodable (family : KeyFamily)
  /-- A defect that is already put into words. -/
  | described (words : String)
deriving DecidableEq

/-- What is wrong, in words. Where a library found the key wanting, its own words, which follow
after a colon for a curve that is not named and for a key that cannot be written again, are left
out. -/
def KeyDefect.message : KeyDefect → String
  | algorithm id => s!"key algorithm {id.toText}"
  | curve id => s!"elliptic curve {id.toText}"
  | unnamedCurve => "elliptic curve key without named curve"
  | otherFamily expected found =>
    s!"expected a {expected.name} key but the exported key is {found.name}"
  | notEncodable family => s!"{family.name} key could not be re-encoded"
  | described words => words

/-- Where the decryption of a key failed: before the container, in it, or at the key. -/
inductive KeyError where
  | malformed
  | decryptionFailed
  | unsupported (defect : KeyDefect)
deriving DecidableEq

/-- What the user is told. Nothing of the key or the passphrase shows. -/
def KeyError.message : KeyError → String
  | malformed => "failed to decode PEM block: no PEM data found"
  | decryptionFailed => "failed to decrypt PEM block"
  | unsupported defect => s!"unsupported private key: {defect.message}"

end CertSync
