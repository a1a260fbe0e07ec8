import CertSync.Resource.Tag
import CertSync.Text.Case
import CertSync.Time.Instant

/-!
# Certificate status

What was last observed of a certificate.
-/

namespace CertSync

/-- What the service says of a certificate. -/
inductive StatusKind where
  | pendingValidation
  | issued
  | inactive
  | expired
  | validationTimedOut
  | revoked
  | failed
  | unknown
deriving DecidableEq

namespace StatusKind

def all : List StatusKind :=
  [pendingValidation, issued, inactive, expired, validationTimedOut, revoked, failed, unknown]

/-- The label by which the service knows a kind. -/
def label : StatusKind → String
  | pendingValidation => "PENDING_VALIDATION"
  | issued => "ISSUED"
  | inactive => "INACTIVE"
  | expired => "EXPIRED"
  | validationTimedOut => "VALIDATION_TIMED_OUT"
  | revoked => "REVOKED"
  | failed => "FAILED"
  | unknown => "UNKNOWN"

/-- A label that is not listed stands for a kind that is not known yet. -/
def ofLabel : String → StatusKind
  | "PENDING_VALIDATION" => pendingValidation
  | "ISSUED" => issued
  | "INACTIVE" => inactive
  | "EXPIRED" => expired
  | "VALIDATION_TIMED_OUT" => validationTimedOut
  | "REVOKED" => revoked
  | "FAILED" => failed
  | _ => unknown

/-- The name of a kind, which the word for it is made of. -/
def name : StatusKind → String
  | pendingValidation => "PendingValidation"
  | issued => "Issued"
  | inactive => "Inactive"
  | expired => "Expired"
  | validationTimedOut => "ValidationTimedOut"
  | revoked => "Revoked"
  | failed => "Failed"
  | unknown => "Unknown"

/-- How a resource writes a kind: by its name, in capitals. -/
def word (k : StatusKind) : String := Text.upperSnake k.name

/-- A word for no kind stands for one that is not known yet. -/
def ofWord (s : String) : StatusKind := (all.find? fun k => k.word = s).getD unknown

/-- The names are chosen so that resources and the service write a kind alike. -/
theorem word_eq_label (k : StatusKind) : k.word = k.label := by cases k <;> rfl

end StatusKind

/-- An entry in the list of conditions that clients keep. -/
structure Condition where
  type : String
  status : String
  lastTransitionTime : Option String
  reason : Option String
  message : Option String
deriving DecidableEq

structure CertificateStatus where
  certificateArn : Option String := none
  kind : Option StatusKind := none
  issuedAt : Option Instant := none
  notAfter : Option Instant := none
  notBefore : Option Instant := none
  serial : Option String := none
  tags : List Tag := []
  conditions : List Condition := []
deriving DecidableEq

end CertSync
