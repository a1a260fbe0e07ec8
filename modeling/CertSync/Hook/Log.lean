/-!
# Log events

What a run writes to the log: the spans it opens and the messages it leaves.
-/

namespace CertSync

inductive LogLevel where
  | debug
  | info
  | warn
deriving DecidableEq

def LogLevel.name : LogLevel → String
  | debug => "DEBUG"
  | info => "INFO"
  | warn => "WARN"

inductive LogValue where
  | text (value : String)
  | number (value : Nat)
deriving DecidableEq

/-- A span with its fields, or a message at a level. -/
inductive LogEvent where
  | span (name : String) (fields : List (String × LogValue))
  | message (level : LogLevel) (text : String)
deriving DecidableEq

end CertSync
