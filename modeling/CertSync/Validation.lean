import CertSync.Hook.Error
import CertSync.Resource.Certificate
import CertSync.Text.Blank

/-!
# Validation

The checks on a resource's own fields, which need nothing from outside. The first rule that is
broken is the one reported.
-/

namespace CertSync

/-- How a certificate comes about: it is brought along, or it is asked for. -/
inductive AcquisitionMode where
  | imported
  | requested
  | unspecified
deriving DecidableEq

/-- The names of those fields that are set. -/
def setFields (fields : List (String × Bool)) : List String :=
  (fields.filter Prod.snd).map Prod.fst

namespace CertificateSpec

/-- The fields that are set of those that only an import has. -/
def importFields (s : CertificateSpec) : List String := setFields [
  ("certificate", s.certificate.isSome),
  ("certificateChain", s.certificateChain.isSome),
  ("privateKey", s.privateKey.isSome)]

/-- The fields that are set of those that only a request has. A list counts as set if it holds
something. -/
def requestFields (s : CertificateSpec) : List String := setFields [
  ("domainName", s.domainName.isSome),
  ("domainValidationOptions", !s.domainValidationOptions.isEmpty),
  ("keyAlgorithm", s.keyAlgorithm.isSome),
  ("subjectAlternativeNames", !s.subjectAlternativeNames.isEmpty),
  ("options", s.options.isSome)]

/-- Issued by the public authority, not by a private one. -/
def isPublic (s : CertificateSpec) : Bool := (nonEmpty s.certificateAuthorityArn).isNone

end CertificateSpec

/-- How many domain validation options the public authority takes. -/
def publicOptionLimit : Nat := 5

namespace Certificate

/-- The acquisition mode that the fields settle, if they do not contradict each other. -/
def mode (c : Certificate) : Except TerminalReason AcquisitionMode :=
  let imports := c.spec.importFields
  let requests := c.spec.requestFields
  if !imports.isEmpty && !requests.isEmpty then .error (.conflictingMode imports requests)
  else if !imports.isEmpty then
    if c.spec.privateKey.isNone then .error (.missingImportField "privateKey")
    else .ok .imported
  else if !requests.isEmpty then .ok .requested
  else .ok .unspecified

/-- A public certificate has a bounded number of domain validation options; a private one may have
any. -/
def checkPublicOptions (c : Certificate) : Except TerminalReason Unit :=
  let count := c.spec.domainValidationOptions.length
  if c.spec.isPublic ∧ publicOptionLimit < count then
    .error (.tooManyValidationOptions count publicOptionLimit)
  else .ok ()

/-- A resource with an export target has a passphrase, and the target names a secret. -/
def checkExportOptions (c : Certificate) : Except TerminalReason Unit :=
  match c.spec.exportTo with
  | none => .ok ()
  | some target =>
    if c.spec.exportPassphrase.isNone then .error .missingExportPassphrase
    else if Text.allBlank target.name then .error .missingExportDestination
    else .ok ()

/-- All rules in their order: the mode, then the options, then the export. -/
def check (c : Certificate) : Except TerminalReason AcquisitionMode := do
  let mode ← c.mode
  if mode = .unspecified then throw .missingAcquisitionMode
  c.checkPublicOptions
  c.checkExportOptions
  return mode

/-- The rules as an operation. What they find stays until the resource is edited. -/
def validate (c : Certificate) : Except HookError AcquisitionMode :=
  c.check.mapError fun reason => ⟨"validate", c.resourceKey, .terminal reason⟩

end Certificate

end CertSync
