import CertSync.Json.Reader
import CertSync.Json.Record
import CertSync.Resource.Certificate
import CertSync.Time.Reader

/-!
# Reading resources

Each part of a resource is a record; its fields stand in `names` in their order. Nothing is
converted: a value of another JSON type than its field's is refused.
-/

namespace CertSync

open Json (required optional defaulted)

def Instant.ofJson? (j : Json) : Option Instant := j.text? >>= Instant.ofText?

/-- A label that is not known is refused. -/
def KeyAlgorithm.ofJson? (j : Json) : Option KeyAlgorithm := j.label? >>= KeyAlgorithm.ofLabel?

/-- A label that is not known is read as such. -/
def StatusKind.ofJson? (j : Json) : Option StatusKind := j.label?.map StatusKind.ofWord

namespace Tag

def names : List String := ["key", "value"]

def ofJson? (j : Json) : Option Tag := do
  let r ← j.record? names
  return {
    key := ← required Json.text? (r "key")
    value := ← optional Json.text? (r "value") }

end Tag

namespace SecretRef

def names : List String := ["name", "namespace", "key"]

def ofJson? (j : Json) : Option SecretRef := do
  let r ← j.record? names
  return {
    name := ← required Json.text? (r "name")
    ns := ← optional Json.text? (r "namespace")
    key := ← required Json.text? (r "key") }

end SecretRef

namespace ExportTarget

def names : List String := ["namespace", "name", "key"]

def ofJson? (j : Json) : Option ExportTarget := do
  let r ← j.record? names
  return {
    ns := ← defaulted "" Json.text? (r "namespace")
    name := ← required Json.text? (r "name")
    key := ← defaulted defaultKey Json.text? (r "key") }

end ExportTarget

namespace DomainValidationOption

def names : List String := ["domainName", "validationDomain"]

def ofJson? (j : Json) : Option DomainValidationOption := do
  let r ← j.record? names
  return {
    domainName := ← required Json.text? (r "domainName")
    validationDomain := ← required Json.text? (r "validationDomain") }

end DomainValidationOption

namespace CertificateOptions

def names : List String := ["certificateTransparencyLoggingPreference"]

def ofJson? (j : Json) : Option CertificateOptions := do
  let r ← j.record? names
  return {
    transparencyLogging :=
      ← optional Json.text? (r "certificateTransparencyLoggingPreference") }

end CertificateOptions

namespace CertificateSpec

def names : List String :=
  ["domainName", "subjectAlternativeNames", "keyAlgorithm", "domainValidationOptions",
   "certificateAuthorityARN", "options", "certificate", "certificateChain", "privateKey",
   "exportTo", "exportPassphrase", "tags"]

def ofJson? (j : Json) : Option CertificateSpec := do
  let r ← j.record? names
  return {
    domainName := ← optional Json.text? (r "domainName")
    subjectAlternativeNames :=
      ← defaulted [] (Json.listOf? Json.text?) (r "subjectAlternativeNames")
    keyAlgorithm := ← optional KeyAlgorithm.ofJson? (r "keyAlgorithm")
    domainValidationOptions :=
      ← defaulted [] (Json.listOf? DomainValidationOption.ofJson?) (r "domainValidationOptions")
    certificateAuthorityArn := ← optional Json.text? (r "certificateAuthorityARN")
    options := ← optional CertificateOptions.ofJson? (r "options")
    certificate := ← optional SecretRef.ofJson? (r "certificate")
    certificateChain := ← optional SecretRef.ofJson? (r "certificateChain")
    privateKey := ← optional SecretRef.ofJson? (r "privateKey")
    exportTo := ← optional ExportTarget.ofJson? (r "exportTo")
    exportPassphrase := ← optional SecretRef.ofJson? (r "exportPassphrase")
    tags := ← defaulted [] (Json.listOf? Tag.ofJson?) (r "tags") }

end CertificateSpec

namespace Condition

def names : List String := ["type", "status", "lastTransitionTime", "reason", "message"]

def ofJson? (j : Json) : Option Condition := do
  let r ← j.record? names
  return {
    type := ← required Json.text? (r "type")
    status := ← required Json.text? (r "status")
    lastTransitionTime := ← optional Json.text? (r "lastTransitionTime")
    reason := ← optional Json.text? (r "reason")
    message := ← optional Json.text? (r "message") }

end Condition

namespace CertificateStatus

def names : List String :=
  ["certificateARN", "status", "issuedAt", "notAfter", "notBefore", "serial", "tags",
   "conditions"]

def ofJson? (j : Json) : Option CertificateStatus := do
  let r ← j.record? names
  return {
    certificateArn := ← optional Json.text? (r "certificateARN")
    kind := ← optional StatusKind.ofJson? (r "status")
    issuedAt := ← optional Instant.ofJson? (r "issuedAt")
    notAfter := ← optional Instant.ofJson? (r "notAfter")
    notBefore := ← optional Instant.ofJson? (r "notBefore")
    serial := ← optional Json.text? (r "serial")
    tags := ← defaulted [] (Json.listOf? Tag.ofJson?) (r "tags")
    conditions := ← defaulted [] (Json.listOf? Condition.ofJson?) (r "conditions") }

end CertificateStatus

/-- Names and texts; of a repeated name the last text counts. -/
def TextMap.ofJson? (j : Json) : Option TextMap := do
  let pairs ← (← j.object?).mapM fun f => f.2.text?.map (f.1, ·)
  return pairs.foldl (fun m pair => m.insert pair.1 pair.2) ∅

def generation? (j : Json) : Option Int64 := do
  let n ← j.integer?
  guard (Int64.minValue.toInt ≤ n ∧ n ≤ Int64.maxValue.toInt)
  return Int64.ofInt n

namespace Metadata

/-- Metadata is no record of the kind above: it is an object, read loosely. -/
def ofJson? (j : Json) : Option Metadata := do
  let fields ← j.object?
  return {
    name := ← Json.last? Json.text? fields "name"
    ns := ← Json.last? Json.text? fields "namespace"
    labels := ← Json.last? TextMap.ofJson? fields "labels"
    annotations := ← Json.last? TextMap.ofJson? fields "annotations"
    generation := ← Json.last? generation? fields "generation"
    finalizers := ← Json.last? (Json.listOf? Json.text?) fields "finalizers" }

end Metadata

namespace Certificate

def names : List String := ["metadata", "spec", "status"]

/-- As a list a certificate has all its fields. -/
def ofJson? (j : Json) : Option Certificate := do
  if let some items := j.list? then guard (items.length = names.length)
  let r ← j.record? names
  return {
    metadata := ← required Metadata.ofJson? (r "metadata")
    spec := ← required CertificateSpec.ofJson? (r "spec")
    status := ← optional CertificateStatus.ofJson? (r "status") }

def ofText? (s : String) : Option Certificate := Json.ofText? s >>= ofJson?

end Certificate

end CertSync
