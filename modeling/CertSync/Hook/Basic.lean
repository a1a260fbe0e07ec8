import CertSync.Hook.Call
import CertSync.Hook.Error
import CertSync.Hook.Log
import CertSync.Program

/-!
# Hooks

A hook is a program of effects that ends in a value or an error. A call to a collaborator either
completes, fails, or is stopped because the run was cancelled; a call to the certificate service
leaves one record of how it went, whichever it was.
-/

namespace CertSync

/-- How a call went. A stopped call was cut off, or never started. -/
inductive Outcome (α : Type) where
  | completed (value : α)
  | failed (error : ErrorChain)
  | stopped

/-- One attempt at an operation of the service: its type and name, and the error it ended in. -/
structure ApiRecord where
  type : String
  name : String
  error : Option ErrorChain
deriving DecidableEq

/-- The only things that a hook can do to the world. -/
inductive Effect where
  | call (call : Call)
  | record (entry : ApiRecord)
  | log (event : LogEvent)
  | wait (seconds : Nat)

/-- What an effect gives back. Only a call tells the hook anything. -/
def Effect.Answer : Effect → Type
  | call c => Outcome c.Answer
  | _ => Unit

/-- A program of effects that ends in a value or in an error of the hook. -/
abbrev Hook := ExceptT HookError (Program Effect Effect.Answer)

namespace Hook

/-! ## Single effects -/

def effect (e : Effect) : Hook e.Answer := ExceptT.lift (Program.request e)

def call (c : Call) : Hook (Outcome c.Answer) := effect (.call c)

def record (entry : ApiRecord) : Hook Unit := effect (.record entry)

def log (event : LogEvent) : Hook Unit := effect (.log event)

def debug (text : String) : Hook Unit := log (.message .debug text)

def info (text : String) : Hook Unit := log (.message .info text)

def warn (text : String) : Hook Unit := log (.message .warn text)

def wait (seconds : Nat) : Hook Unit := effect (.wait seconds)

/-! ## Calls that name what they belong to -/

/-- Whose call it is: the operation of the hook and the resource it works on. -/
structure Site where
  operation : String
  resource : String

/-- End the run with an error that names the operation and the resource. -/
def Site.fail (site : Site) (cause : HookError.Cause) : Hook α :=
  throw ⟨site.operation, site.resource, cause⟩

/-- End the run for a reason that only an edit of the resource removes. -/
def Site.terminal (site : Site) (reason : TerminalReason) : Hook α := site.fail (.terminal reason)

/-- Call a collaborator; being stopped ends the run. -/
def Site.attempt (site : Site) (c : Call) : Hook (Except ErrorChain c.Answer) := do
  match ← call c with
  | .completed a => return .ok a
  | .failed error => return .error error
  | .stopped => site.fail .cancelled

/-- Call the certificate service and record how it went. A failure may go away by itself. -/
def Site.service (site : Site) (c : ServiceCall) : Hook c.Answer := do
  match ← call (.service c) with
  | .completed a =>
    record ⟨c.type, c.name, none⟩
    return a
  | .failed error =>
    record ⟨c.type, c.name, some error⟩
    site.fail (.retryable error)
  | .stopped =>
    record ⟨c.type, c.name, some ⟨s!"{c.name} cancelled", []⟩⟩
    site.fail .cancelled

/-- The value of the entry that a field of the resource refers to. An entry that cannot be had
needs an edit. -/
def Site.resolve (site : Site) (ns field : String) (ref : SecretRef) : Hook String := do
  match ← site.attempt (.secret (.resolve ns ref)) with
  | .ok value => return value
  | .error error =>
    warn s!"Failed to resolve {field} secret reference {ref.toText} for {site.resource}: {error.toText}"
    site.terminal (.unresolvedSecret field ref.toText)

/-- Write one entry of a secret. A failure may go away by itself. -/
def Site.write (site : Site) (ns name key value : String) : Hook Unit := do
  match ← site.attempt (.secret (.write ns name key value)) with
  | .ok _ => return ()
  | .error error => site.fail (.retryable error)

end Hook

end CertSync
