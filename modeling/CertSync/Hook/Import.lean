import CertSync.Config.Basic
import CertSync.Hook.Basic
import CertSync.Validation

/-!
# Importing a certificate

The material that a resource refers to is resolved, sent to the service, and the answer merged into
the resource's status.
-/

namespace CertSync

/-- The resource as the import leaves it. An import always creates. -/
structure ImportOutcome where
  resource : Certificate
  created : Bool
deriving DecidableEq

namespace Certificate

/-- Imports are reported under this operation and the resource's key. -/
def importSite (c : Certificate) : Hook.Site := ⟨"import", c.resourceKey⟩

/-- The text that a reference names. An empty one counts as a missing field. -/
def resolveMaterial (c : Certificate) (field : String) (ref : SecretRef) : Hook String := do
  let value ← c.importSite.resolve c.nsOrDefault field ref
  if value.isEmpty then c.importSite.terminal (.missingImportField field)
  return value

/-- Resolve the chain, if the resource has one. An empty chain counts as none. -/
def resolveChain (c : Certificate) : Hook (Option Bytes) := do
  match c.spec.certificateChain with
  | none => return none
  | some ref =>
    let chain ← c.importSite.resolve c.nsOrDefault "certificateChain" ref
    return (nonEmpty (some chain)).map Bytes.ofText

/-- A reference that an import cannot do without. -/
def importRef (c : Certificate) (field : String) : Option SecretRef → Hook SecretRef
  | some ref => return ref
  | none => c.importSite.terminal (.missingImportField field)

/-- The request of an import. Both references are required before either is resolved, and they are
resolved in the order certificate, private key, chain. -/
def importRequest (c : Certificate) : Hook ImportRequest := do
  let certificateRef ← c.importRef "certificate" c.spec.certificate
  let privateKeyRef ← c.importRef "privateKey" c.spec.privateKey
  let certificate ← c.resolveMaterial "certificate" certificateRef
  let privateKey ← c.resolveMaterial "privateKey" privateKeyRef
  let chain ← c.resolveChain
  return {
    certificate := Bytes.ofText certificate
    chain
    privateKey := Bytes.ofText privateKey
    tags := .ofTags c.spec.tags }

/-- The resource after its import: it has an identifier, and the tags that were sent unless it
had some already. -/
def imported (c : Certificate) (arn : String) : Certificate :=
  c.mapStatus fun status => { status with
    certificateArn := some arn
    tags := if status.tags.isEmpty then c.spec.tags else status.tags }

/-- Import the certificate if that is how it is to come about. A fresh certificate is not served
at once, so the run ends only after a while. -/
def importHook (config : Config) (c : Certificate) : Hook (Option ImportOutcome) := do
  match c.mode with
  | .error reason => c.importSite.terminal reason
  | .ok .imported =>
    Hook.log (.span "certificate.import" [
      ("resource.name", .text c.nameOrUnknown),
      ("resource.namespace", .text c.nsOrDefault)])
    let request ← c.importRequest
    Hook.debug s!"Importing certificate for {c.resourceKey}: {request.summary}"
    let arn : String ← c.importSite.service (.importCertificate request)
    Hook.info s!"Imported certificate {arn} for {c.resourceKey}"
    Hook.wait config.postCreateDelay.toNat
    return some { resource := c.imported arn, created := true }
  | .ok _ => return none

end Certificate

end CertSync
