import CertSync.Json.Printer
import CertSync.Resource.Certificate
import CertSync.Time.Printer

/-!
# Printing resources

The spec and the status are printed with all their fields, the metadata only with those it has.
-/

namespace CertSync

open Json (ofOption ofList)

def Instant.toJson (t : Instant) : Json := .text t.toText

def KeyAlgorithm.toJson (a : KeyAlgorithm) : Json := .text a.label

/-- A status kind is written by its word, which is the label of the service. -/
def StatusKind.toJson (k : StatusKind) : Json := .text k.word

def Tag.toJson (t : Tag) : Json := .object [
  ("key", .text t.key),
  ("value", ofOption .text t.value)]

def SecretRef.toJson (ref : SecretRef) : Json := .object [
  ("name", .text ref.name),
  ("namespace", ofOption .text ref.ns),
  ("key", .text ref.key)]

def ExportTarget.toJson (target : ExportTarget) : Json := .object [
  ("namespace", .text target.ns),
  ("name", .text target.name),
  ("key", .text target.key)]

def DomainValidationOption.toJson (o : DomainValidationOption) : Json := .object [
  ("domainName", .text o.domainName),
  ("validationDomain", .text o.validationDomain)]

def CertificateOptions.toJson (o : CertificateOptions) : Json := .object [
  ("certificateTransparencyLoggingPreference", ofOption .text o.transparencyLogging)]

def CertificateSpec.toJson (s : CertificateSpec) : Json := .object [
  ("domainName", ofOption .text s.domainName),
  ("subjectAlternativeNames", ofList .text s.subjectAlternativeNames),
  ("keyAlgorithm", ofOption KeyAlgorithm.toJson s.keyAlgorithm),
  ("domainValidationOptions", ofList DomainValidationOption.toJson s.domainValidationOptions),
  ("certificateAuthorityARN", ofOption .text s.certificateAuthorityArn),
  ("options", ofOption CertificateOptions.toJson s.options),
  ("certificate", ofOption SecretRef.toJson s.certificate),
  ("certificateChain", ofOption SecretRef.toJson s.certificateChain),
  ("privateKey", ofOption SecretRef.toJson s.privateKey),
  ("exportTo", ofOption ExportTarget.toJson s.exportTo),
  ("exportPassphrase", ofOption SecretRef.toJson s.exportPassphrase),
  ("tags", ofList Tag.toJson s.tags)]

def Condition.toJson (c : Condition) : Json := .object [
  ("type", .text c.type),
  ("status", .text c.status),
  ("lastTransitionTime", ofOption .text c.lastTransitionTime),
  ("reason", ofOption .text c.reason),
  ("message", ofOption .text c.message)]

def CertificateStatus.toJson (s : CertificateStatus) : Json := .object [
  ("certificateARN", ofOption .text s.certificateArn),
  ("status", ofOption StatusKind.toJson s.kind),
  ("issuedAt", ofOption Instant.toJson s.issuedAt),
  ("notAfter", ofOption Instant.toJson s.notAfter),
  ("notBefore", ofOption Instant.toJson s.notBefore),
  ("serial", ofOption .text s.serial),
  ("tags", ofList Tag.toJson s.tags),
  ("conditions", ofList Condition.toJson s.conditions)]

def TextMap.toJson (m : TextMap) : Json := .object (m.toList.map fun pair => (pair.1, .text pair.2))

/-- A field that is printed only if it is there. -/
def present (name : String) (encode : α → Json) (field : Option α) : List (String × Json) :=
  field.toList.map fun a => (name, encode a)

/-- What is missing is left out, unlike in a spec or a status. -/
def Metadata.toJson (m : Metadata) : Json := .object (
  present "name" .text m.name ++
  present "namespace" .text m.ns ++
  present "labels" TextMap.toJson m.labels ++
  present "annotations" TextMap.toJson m.annotations ++
  present "generation" (fun n => Json.ofInt n.toInt) m.generation ++
  present "finalizers" (ofList .text) m.finalizers)

namespace Certificate

def apiVersion : String := "acm.services.k8s.aws/v1alpha1"

/-- The version and the kind come first. A status that is missing is left out. -/
def toJson (c : Certificate) : Json := .object ([
  ("apiVersion", .text apiVersion),
  ("kind", .text "Certificate"),
  ("metadata", c.metadata.toJson),
  ("spec", c.spec.toJson)] ++
  present "status" CertificateStatus.toJson c.status)

def toText (c : Certificate) : String := c.toJson.toText

end Certificate

end CertSync
