import CertSync.Text.Quoted

/-!
# Configuration

The settings of the controller and what they are when nothing is said.
-/

namespace CertSync

structure Config where
  /-- Seconds to wait after a certificate was created. -/
  postCreateDelay : UInt64 := 5
  exportCertificateKey : String := "tls.crt"
  exportPrivateKeyKey : String := "tls.key"
  region : Option String := none
  fieldManager : String := "acm-certificate-controller"
  logLevel : String := "INFO"
  logFormat : String := "text"
  enableMetrics : Bool := true
deriving DecidableEq

/-- Every setting by its name. None of them is a secret. -/
def Config.summary (c : Config) : String :=
  Text.showFields "ControllerConfig" [
    s!"post_create_delay_secs: {c.postCreateDelay.toNat}",
    s!"default_export_certificate_key: {Text.quote c.exportCertificateKey}",
    s!"export_private_key_key: {Text.quote c.exportPrivateKeyKey}",
    s!"aws_region: {Text.showOption Text.quote c.region}",
    s!"field_manager: {Text.quote c.fieldManager}",
    s!"log_level: {Text.quote c.logLevel}",
    s!"log_format: {Text.quote c.logFormat}",
    s!"enable_metrics: {c.enableMetrics}"]

/-- What the hooks that run under a configuration show of themselves. -/
def Config.hooksSummary (c : Config) : String :=
  Text.showFields "CertificateHooks" [s!"config: {c.summary}", ".."]

end CertSync
