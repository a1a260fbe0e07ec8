import CertSync.Resource.KeyAlgorithm
import CertSync.Resource.Tag

/-!
# Certificate spec

What a certificate is to be: requested from the service, or imported from secrets, and where its
material is exported to.
-/

namespace CertSync

/-- An empty text counts as none. -/
def nonEmpty (s : Option String) : Option String := s.filter fun s => !s.isEmpty

/-- An entry of a secret, in the namespace of the resource unless it names one of its own. -/
structure SecretRef where
  name : String
  ns : Option String
  key : String
deriving DecidableEq

namespace SecretRef

/-- The namespace of the reference, or the fallback for none and for an empty one. -/
def nsOr (ref : SecretRef) (fallback : String) : String := (nonEmpty ref.ns).getD fallback

/-- What messages call the reference. -/
def toText (ref : SecretRef) : String :=
  match nonEmpty ref.ns with
  | some ns => s!"{ns}/{ref.name}#{ref.key}"
  | none => s!"{ref.name}#{ref.key}"

end SecretRef

/-- The secret that an export writes to, and the key for the certificate in it. -/
structure ExportTarget where
  ns : String
  name : String
  key : String
deriving DecidableEq

/-- The entry that an export goes to when a document names none. -/
def ExportTarget.defaultKey : String := "tls.crt"

/-- The domain by which the ownership of another is proved. -/
structure DomainValidationOption where
  domainName : String
  validationDomain : String
deriving DecidableEq

structure CertificateOptions where
  transparencyLogging : Option String := none
deriving DecidableEq

/-- A field that is missing in a document is `none`, or the empty list. -/
structure CertificateSpec where
  domainName : Option String := none
  subjectAlternativeNames : List String := []
  keyAlgorithm : Option KeyAlgorithm := none
  domainValidationOptions : List DomainValidationOption := []
  certificateAuthorityArn : Option String := none
  options : Option CertificateOptions := none
  certificate : Option SecretRef := none
  certificateChain : Option SecretRef := none
  privateKey : Option SecretRef := none
  exportTo : Option ExportTarget := none
  exportPassphrase : Option SecretRef := none
  tags : List Tag := []
deriving DecidableEq

end CertSync
