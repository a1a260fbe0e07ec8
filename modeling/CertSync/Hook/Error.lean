import CertSync.Key.Error

/-!
# Hook errors

A hook fails in one of three ways. A terminal failure stays until a user edits the resource, a
retryable one may go away by itself, and a cancelled run was told to stop. Every failure names the
operation and the resource that it belongs to.
-/

namespace CertSync

/-- What went wrong at a collaborator: its own account, then the causes below it. -/
structure ErrorChain where
  message : String
  causes : List String := []
deriving DecidableEq

/-- The whole account in one line, from the outside in. -/
def ErrorChain.toText (e : ErrorChain) : String := ": ".intercalate (e.message :: e.causes)

/-- Why an edit is needed, with the fields and the numbers that the message names. -/
inductive TerminalReason where
  | conflictingMode (importFields requestFields : List String)
  | missingAcquisitionMode
  | missingImportField (field : String)
  | tooManyValidationOptions (count limit : Nat)
  | missingExportPassphrase
  | missingExportDestination
  | unresolvedSecret (field reference : String)
  | keyDecryption (error : KeyError)
deriving DecidableEq

/-- What the user is told. Fields go by the names they have in a document. -/
def TerminalReason.message : TerminalReason → String
  | conflictingMode importFields requestFields =>
    let imports := ", ".intercalate importFields
    let requests := ", ".intercalate requestFields
    s!"cannot set fields used for requesting a certificate ({requests}) when importing a certificate ({imports})"
  | missingAcquisitionMode =>
    "certificate must either request a certificate (domainName) or import one (certificate, privateKey)"
  | missingImportField field => s!"{field} is required when importing a certificate"
  | tooManyValidationOptions count limit =>
    s!"certificate cannot have more than {limit} domain validation options when requesting a public certificate (got {count})"
  | missingExportPassphrase => "exporting a certificate requires the exportPassphrase field"
  | missingExportDestination => "exporting a certificate requires a non-empty exportTo.name"
  | unresolvedSecret field reference => s!"could not resolve {field} secret reference {reference}"
  | keyDecryption error => error.message

/-- A cancelled run has no cause of its own: nothing went wrong in it. -/
inductive HookError.Cause where
  | terminal (reason : TerminalReason)
  | retryable (error : ErrorChain)
  | cancelled
deriving DecidableEq

/-- A failure with the operation and the resource it belongs to. -/
structure HookError where
  operation : String
  resource : String
  cause : HookError.Cause
deriving DecidableEq

namespace HookError

/-- The certificate has no identifier yet. A later read will show one without any edit. -/
def missingArn (operation resource action : String) : HookError :=
  ⟨operation, resource, .retryable ⟨s!"certificate has no ARN yet, cannot {action}", []⟩⟩

/-- The hook is not to be run again before an edit. -/
def isTerminal (e : HookError) : Bool :=
  match e.cause with
  | .terminal _ => true
  | _ => false

/-- The hook may succeed when it is run again as it is. -/
def isRetryable (e : HookError) : Bool := !e.isTerminal

/-- The reason of a terminal failure; other failures have none. -/
def terminalReason? (e : HookError) : Option TerminalReason :=
  match e.cause with
  | .terminal reason => some reason
  | _ => none

/-- Which of the three ways it was, in one word. -/
def classification (e : HookError) : String :=
  match e.cause with
  | .terminal _ => "terminal"
  | .retryable _ => "retryable"
  | .cancelled => "cancelled"

/-- The operation and the resource come first; a cancelled run says no more. -/
def message (e : HookError) : String :=
  match e.cause with
  | .terminal reason => s!"{e.operation} failed for {e.resource}: {reason.message}"
  | .retryable error => s!"{e.operation} failed for {e.resource}: {error.toText}"
  | .cancelled => s!"{e.operation} cancelled for {e.resource}"

end HookError

end CertSync
