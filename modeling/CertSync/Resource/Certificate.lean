import CertSync.Resource.Spec
import CertSync.Resource.Status

/-!
# Certificates

A certificate resource: what it is called, what it is to be, and what was observed of it.
-/

namespace CertSync

/-- What names a resource, and what clients note on it. Fields that nothing here looks at are left
out. -/
structure Metadata where
  name : Option String := none
  ns : Option String := none
  labels : Option TextMap := none
  annotations : Option TextMap := none
  generation : Option Int64 := none
  finalizers : Option (List String) := none
deriving DecidableEq

structure Certificate where
  metadata : Metadata
  spec : CertificateSpec
  status : Option CertificateStatus := none
deriving DecidableEq

namespace Certificate

def nameOrUnknown (c : Certificate) : String := c.metadata.name.getD "unknown"

/-- A resource without a namespace counts as one in `default`. -/
def nsOrDefault (c : Certificate) : String := c.metadata.ns.getD "default"

/-- What errors and messages call the resource. -/
def resourceKey (c : Certificate) : String := s!"{c.nsOrDefault}/{c.nameOrUnknown}"

/-- The identifier of the certificate at the service. An empty one is none. -/
def arn? (c : Certificate) : Option String := nonEmpty (c.status.bind (·.certificateArn))

/-- The resource with its status changed, which starts out empty. -/
def mapStatus (f : CertificateStatus → CertificateStatus) (c : Certificate) : Certificate :=
  { c with status := some (f (c.status.getD {})) }

/-- The tags of the status are replaced, and nothing else. -/
def withStatusTags (tags : List Tag) : Certificate → Certificate :=
  mapStatus fun status => { status with tags }

theorem arn?_eq_some_iff {c : Certificate} {arn : String} :
    c.arn? = some arn ↔ c.status.bind (·.certificateArn) = some arn ∧ arn ≠ "" := by
  simp [arn?, nonEmpty, Option.filter_eq_some_iff]

theorem arn?_eq_none_iff {c : Certificate} :
    c.arn? = none ↔ ∀ arn, c.status.bind (·.certificateArn) = some arn → arn = "" := by
  simp [arn?, nonEmpty, Option.filter_eq_none_iff]

end Certificate

end CertSync
