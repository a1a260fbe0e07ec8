import CertSync.Bytes.Basic
import CertSync.Config.Basic
import CertSync.Text.Blank
import CertSync.Text.Decimal

/-!
# Log levels

The configured level counts only if the environment gives no filter of its own.
-/

namespace CertSync

/-- A name of a level, in any case and with blanks around it, or its number. -/
def isLogLevel (s : String) : Bool :=
  let level := (Text.trim s).toLower
  ["", "off", "error", "warn", "info", "debug", "trace"].contains level ||
    (Text.unsignedBelow? 6 level).isSome

/-- Whether logging can start. A filter that is not text counts as not given. -/
def Config.startLogging (c : Config) (filter : Option Bytes) : Except String Unit :=
  if (filter >>= Bytes.toText?).isSome || isLogLevel c.logLevel then .ok ()
  else .error s!"Invalid log level '{c.logLevel}'"

end CertSync
