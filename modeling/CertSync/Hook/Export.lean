import CertSync.Config.Basic
import CertSync.Hook.Basic
import CertSync.Key.Decryption
import CertSync.Resource.Certificate
import CertSync.Text.Blank

/-!
# Exporting a certificate

The certificate is fetched under the passphrase that the resource refers to, and written to a
secret: the certificate with its chain to one entry, the decrypted private key to another.
-/

namespace CertSync

/-- The two entries that an export writes, which belong to one secret. -/
structure ExportDestination where
  ns : String
  name : String
  certificateKey : String
  privateKeyKey : String
deriving DecidableEq

/-- How an export ends if it does not fail. A resource that wants no export is skipped, and one
whose certificate the service does not know writes nothing. -/
inductive ExportOutcome where
  | skipped
  | exported (destination : ExportDestination)
  | remoteNotFound
deriving DecidableEq

/-- The certificate followed by its chain. -/
def ExportedMaterial.bundle (m : ExportedMaterial) : String :=
  m.certificate ++ (nonEmpty m.chain).getD ""

namespace Certificate

/-- Exports are reported under this operation and the resource's key. -/
def exportSite (c : Certificate) : Hook.Site := ⟨"export", c.resourceKey⟩

/-- Where an export goes: an empty namespace is the resource's own, an empty key the configured
one. -/
def exportDestination (config : Config) (c : Certificate) (target : ExportTarget) :
    ExportDestination where
  ns := (nonEmpty (some target.ns)).getD c.nsOrDefault
  name := target.name
  certificateKey := (nonEmpty (some target.key)).getD config.exportCertificateKey
  privateKeyKey := config.exportPrivateKeyKey

/-- The passphrase that a reference names. An empty one counts as unresolved. -/
def exportPassphrase (c : Certificate) (ref : SecretRef) : Hook String := do
  let passphrase ← c.exportSite.resolve c.nsOrDefault "exportPassphrase" ref
  if passphrase.isEmpty then
    c.exportSite.terminal (.unresolvedSecret "exportPassphrase" ref.toText)
  return passphrase

/-- Write what was exported. The certificate goes first, and stays if the key is refused. -/
def deliver (c : Certificate) (passphrase : String) (dest : ExportDestination)
    (material : ExportedMaterial) : Hook Unit := do
  c.exportSite.write dest.ns dest.name dest.certificateKey material.bundle
  Hook.debug s!"Wrote certificate to {dest.ns}/{dest.name} key {dest.certificateKey}"
  let family := c.spec.keyAlgorithm.map KeyAlgorithm.family
  match decryptKey (Bytes.ofText material.privateKey) (Bytes.ofText passphrase) family with
  | .error error => c.exportSite.terminal (.keyDecryption error)
  | .ok privateKey => c.exportSite.write dest.ns dest.name dest.privateKeyKey privateKey

/-- Export the certificate if the spec has both a target and a passphrase. The target and the
identifier are looked at before anything is resolved, and nothing is written until the service has
answered. -/
def exportHook (config : Config) (c : Certificate) : Hook ExportOutcome := do
  match c.spec.exportTo, c.spec.exportPassphrase with
  | some target, some ref =>
    if Text.allBlank target.name then c.exportSite.terminal .missingExportDestination
    match c.arn? with
    | none => throw (.missingArn "export" c.resourceKey "export")
    | some arn =>
      let dest := c.exportDestination config target
      Hook.log (.span "certificate.export" [
        ("resource.name", .text c.nameOrUnknown),
        ("resource.namespace", .text c.nsOrDefault),
        ("certificate.arn", .text arn),
        ("secret.namespace", .text dest.ns),
        ("secret.name", .text dest.name)])
      let passphrase ← c.exportPassphrase ref
      let answer : ExportAnswer ←
        c.exportSite.service (.exportCertificate arn (Bytes.ofText passphrase))
      match answer with
      | .notFound =>
        Hook.warn s!"Certificate {arn} of {c.resourceKey} was not found in ACM, skipping export"
        return .remoteNotFound
      | .exported material =>
        c.deliver passphrase dest material
        Hook.info s!"Exported certificate {arn} to secret {dest.ns}/{dest.name}"
        return .exported dest
  | _, _ => return .skipped

end Certificate

end CertSync
