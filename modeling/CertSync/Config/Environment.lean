import CertSync.Bytes.Basic
import CertSync.Config.Basic
import CertSync.Text.Blank
import CertSync.Text.Decimal

/-!
# Configuration from the environment

Each setting has one variable of its own. A value that is not text counts as unset, and a number
that cannot be read leaves its default.
-/

namespace CertSync

/-- The variables that are set, with their bytes. -/
abbrev Environment := String → Option Bytes

namespace Environment

def text? (env : Environment) (name : String) : Option String := env name >>= Bytes.toText?

/-- Any value that does not say yes says no. -/
def isYes (s : String) : Bool := ["true", "1", "yes", "on"].contains s.toLower

def flag? (env : Environment) (name : String) : Option Bool := (env.text? name).map isYes

def seconds? (env : Environment) (name : String) : Option UInt64 :=
  (env.text? name >>= Text.unsignedBelow? UInt64.size).map UInt64.ofNat

end Environment

/-- The settings as the environment has them. A region that is blank counts as unset; of the other
texts, an empty one stays as it is. -/
def Config.ofEnvironment (env : Environment) : Config :=
  let unset : Config := {}
  { postCreateDelay := (env.seconds? "POST_CREATE_DELAY_SECS").getD unset.postCreateDelay
    exportCertificateKey := (env.text? "EXPORT_CERTIFICATE_KEY").getD unset.exportCertificateKey
    exportPrivateKeyKey := (env.text? "EXPORT_PRIVATE_KEY_KEY").getD unset.exportPrivateKeyKey
    region := (env.text? "AWS_REGION").filter fun s => !Text.allBlank s
    fieldManager := (env.text? "FIELD_MANAGER").getD unset.fieldManager
    logLevel := (env.text? "LOG_LEVEL").getD unset.logLevel
    logFormat := (env.text? "LOG_FORMAT").getD unset.logFormat
    enableMetrics := (env.flag? "ENABLE_METRICS").getD unset.enableMetrics }

end CertSync
