import CertSync.Hook.Log
import CertSync.Text.Quoted

/-!
# Clients of the certificate service

A client works in one region: the one it was told, or else the one its surroundings name.
-/

namespace CertSync

/-- A client, with the region that it was told. -/
structure AcmClient where
  region : Option String := none
deriving DecidableEq

namespace AcmClient

/-- A client, with what it logs about itself, if there is a region for it. -/
def connect (region surroundings : Option String) : Except String (AcmClient × LogEvent) :=
  match region.or surroundings with
  | some actual => .ok ({ region }, .message .info s!"Using ACM in region {actual}")
  | none => .error "No AWS region configured: set AWS_REGION or configure a default region"

/-- The region that the client was told, not the one it found. -/
def summary (client : AcmClient) : String :=
  Text.showFields "AcmCertificateService" [
    s!"region: {Text.showOption Text.quote client.region}", ".."]

end AcmClient

end CertSync
