import CertSync.Drift.Delta
import CertSync.Resource.Certificate
import CertSync.Time.Printer

/-!
# Issuance drift

A first issuance or a renewal shows as a difference in the spec, so that the certificate is taken
through an update, and exported, when its material changes.
-/

namespace CertSync

/-- Where an issuance shows, although it is a matter of the status. -/
def issuedAtPath : String := "Spec.Status.IssuedAt"

namespace Certificate

/-- When the certificate was issued last, if a status says so. -/
def issuedAt? (c : Certificate) : Option Instant := c.status.bind (·.issuedAt)

/-- What the status says about the certificate, if there is one and it says something known. -/
def statusKind? (c : Certificate) : Option StatusKind := c.status.bind (·.kind)

/-- From `a`, observed earlier, to `b` there was a first issuance or a renewal. -/
def issuanceDiffers (a b : Certificate) : Bool :=
  match a.issuedAt?, b.issuedAt? with
  | none, _ => b.statusKind? = some .issued
  | some earlier, some later => earlier ≠ later
  | some _, none => false

end Certificate

/-- Note an issuance between two states, with the times written with their offsets. A side without a
time is left empty. -/
def Delta.compareIssuedAt (delta : Delta) (a b : Certificate) : Delta :=
  if a.issuanceDiffers b then
    let side (t : Option Instant) : Option Json := t.map fun t => .text t.toOffsetText
    delta.add issuedAtPath (side a.issuedAt?) (side b.issuedAt?)
  else delta

end CertSync
