import CertSync.Proofs.Export.Course
import CertSync.Proofs.Import.Course
import CertSync.Proofs.Operation.Naming
import CertSync.Proofs.Session.Encounter

/-!
# Steps that fail

The step that an operation fails at is settled by the fields of the resource and by how the calls
went. There is one at most, and it says of which class an error is and what its cause is.
-/

namespace CertSync

/-! ## Faults -/

/-- A step that did not go well, and what there is to say of it. -/
inductive Fault where
  | invalid (reason : TerminalReason)
  | missingReference (field : String)
  | blankDestination
  | missingArn (action : String)
  | unresolved (field : String) (ref : SecretRef)
  | emptyMaterial (field : String)
  | emptyPassphrase (ref : SecretRef)
  | decryption (error : KeyError)
  | service (call : ServiceCall) (error : ErrorChain)
  | unwritten (call : SecretCall) (error : ErrorChain)
  | stopped (call : Call)

namespace Fault

def cause : Fault → HookError.Cause
  | invalid reason => .terminal reason
  | missingReference field => .terminal (.missingImportField field)
  | blankDestination => .terminal .missingExportDestination
  | missingArn action => .retryable ⟨s!"certificate has no ARN yet, cannot {action}", []⟩
  | unresolved field ref => .terminal (.unresolvedSecret field ref.toText)
  | emptyMaterial field => .terminal (.missingImportField field)
  | emptyPassphrase ref => .terminal (.unresolvedSecret "exportPassphrase" ref.toText)
  | decryption error => .terminal (.keyDecryption error)
  | service _ error => .retryable error
  | unwritten _ error => .retryable error
  | stopped _ => .cancelled

/-- Nothing but an edit helps. -/
def NeedsEdit : Fault → Prop
  | invalid _ | missingReference _ | blankDestination | unresolved _ _ | emptyMaterial _
  | emptyPassphrase _ | decryption _ => True
  | missingArn _ | service _ _ | unwritten _ _ | stopped _ => False

/-- It may go away by itself. -/
def MayPass : Fault → Prop
  | missingArn _ | service _ _ | unwritten _ _ => True
  | _ => False

/-- What a collaborator said that failed, where this is passed on. -/
def chain? : Fault → Option ErrorChain
  | service _ error => some error
  | unwritten _ error => some error
  | _ => none

/-- The error is of the class that goes with the fault and has its cause. What a collaborator said
is in it as it was, and its text tells that from the outermost account to the innermost. -/
structure Explains (fault : Fault) (e : HookError) : Prop where
  cause : e.cause = fault.cause
  terminal : (∃ reason, e.cause = .terminal reason) ↔ fault.NeedsEdit
  retryable : (∃ error, e.cause = .retryable error) ↔ fault.MayPass
  cancelled : e.cause = .cancelled ↔ ∃ c, fault = .stopped c
  chain : ∀ error, fault.chain? = some error → e.cause = .retryable error ∧
    e.message = e.operation ++ " failed for " ++ e.resource ++ ": " ++
      ": ".intercalate (error.message :: error.causes)

theorem explains_of_cause {fault : Fault} {e : HookError} (h : e.cause = fault.cause) :
    fault.Explains e where
  cause := h
  terminal := by
    rw [h]
    cases fault <;> simp [Fault.cause, NeedsEdit]
  retryable := by
    rw [h]
    cases fault <;> simp [Fault.cause, MayPass]
  cancelled := by
    rw [h]
    cases fault <;> simp [Fault.cause]
  chain error hchain := by
    have hcause : e.cause = .retryable error := by
      rw [h]
      cases fault <;> cases hchain <;> rfl
    refine ⟨hcause, ?_⟩
    rw [HookError.message, hcause]
    rfl

end Fault

/-! ## Where they fail -/

/-- What an import looks up, once it has the two references that it needs. -/
def Certificate.importMaterials (c : Certificate) : List Material :=
  match c.spec.certificate, c.spec.privateKey with
  | some certificate, some privateKey => c.materials certificate privateKey
  | _, _ => []

/-- An import gives up by itself, after these calls. -/
inductive Certificate.RefusesImport (c : Certificate) (made : List Encounter) : Fault → Prop
  | mode {reason : TerminalReason} (hmade : made = []) (h : c.mode = .error reason) :
      RefusesImport c made (.invalid reason)
  | certificate (hmade : made = []) (hmode : c.mode = .ok .imported)
      (h : c.spec.certificate = none) : RefusesImport c made (.missingReference "certificate")
  | empty {before : List Encounter} {material : Material}
      (hmade : made = before ++ [⟨c.lookup material, .completed ""⟩])
      (hmaterial : c.importMaterials[before.length]? = some material)
      (hrequired : material.required = true) :
      RefusesImport c made (.emptyMaterial material.field)

/-- An export gives up by itself, after these calls. -/
inductive Certificate.RefusesExport (config : Config) (c : Certificate) (made : List Encounter) :
    Fault → Prop
  | destination {target : ExportTarget} {ref : SecretRef} (hmade : made = [])
      (htarget : c.spec.exportTo = some target) (href : c.spec.exportPassphrase = some ref)
      (h : Text.allBlank target.name = true) : RefusesExport config c made .blankDestination
  | arn {target : ExportTarget} {ref : SecretRef} (hmade : made = [])
      (htarget : c.spec.exportTo = some target) (href : c.spec.exportPassphrase = some ref)
      (hname : Text.allBlank target.name = false) (h : c.arn? = none) :
      RefusesExport config c made (.missingArn "export")
  | passphrase {ref : SecretRef} (hmade : made = [⟨c.passphraseCall ref, .completed ""⟩])
      (href : c.spec.exportPassphrase = some ref) :
      RefusesExport config c made (.emptyPassphrase ref)
  | key {target : ExportTarget} {ref : SecretRef} {arn passphrase : String}
      {dest : ExportDestination} {material : ExportedMaterial} {error : KeyError}
      (hmade : made = [
        ⟨c.passphraseCall ref, .completed passphrase⟩,
        ⟨exportCall arn passphrase, .completed (.exported material)⟩,
        ⟨dest.certificateCall material, .completed ()⟩])
      (htarget : c.spec.exportTo = some target) (hdest : c.Completes config target dest)
      (h : c.exportedKey passphrase material = .error error) :
      RefusesExport config c made (.decryption error)

namespace Operation

/-- An operation gives up by itself, after these calls. -/
def Refuses : Operation → List Encounter → Fault → Prop
  | validate c, made, fault =>
    made = [] ∧ ∃ reason, c.check = .error reason ∧ fault = .invalid reason
  | importing _ c, made, fault => c.RefusesImport made fault
  | exporting config c, made, fault => c.RefusesExport config made fault
  | syncTags _ latest, made, fault =>
    made = [] ∧ latest.arn? = none ∧ fault = .missingArn "sync tags"
  | observeTags latest, made, fault =>
    made = [] ∧ latest.arn? = none ∧ fault = .missingArn "list tags"

/-- What an operation looks up before anything else, in order. -/
def materials : Operation → List Material
  | importing _ c => c.importMaterials
  | exporting _ c => c.spec.exportPassphrase.toList.map fun ref => ⟨"exportPassphrase", ref, true⟩
  | _ => []

/-- A call that came after `n` others did not complete. -/
inductive CallFails (o : Operation) (n : Nat) : Encounter → Fault → Prop
  | unresolved {field : String} {ref : SecretRef} {required : Bool} {error : ErrorChain}
      (h : o.materials[n]? = some ⟨field, ref, required⟩) :
      CallFails o n ⟨.secret (.resolve o.subject.nsOrDefault ref), .failed error⟩
        (.unresolved field ref)
  | service {c : ServiceCall} {error : ErrorChain} :
      CallFails o n ⟨.service c, .failed error⟩ (.service c error)
  | unwritten {ns name key value : String} {error : ErrorChain} :
      CallFails o n ⟨.secret (.write ns name key value), .failed error⟩
        (.unwritten (.write ns name key value) error)
  | stopped {c : Call} : CallFails o n ⟨c, .stopped⟩ (.stopped c)

/-- All went well up to this step. -/
inductive FailsAt (o : Operation) (made : List Encounter) (fault : Fault) : Prop
  | call {before : List Encounter} {x : Encounter} (hmade : made = before ++ [x])
      (hbefore : WentWell before) (h : o.CallFails before.length x fault)
  | refusal (hmade : WentWell made) (h : o.Refuses made fault)

end Operation

/-! ## There is one such step at most -/

theorem Certificate.RefusesImport.unique {c : Certificate} {made : List Encounter}
    {fault fault' : Fault} (h : c.RefusesImport made fault) (h' : c.RefusesImport made fault') :
    fault = fault' := by
  cases h with
  | mode hmade h =>
    cases h' with
    | mode _ h' => cases h.symm.trans h'; rfl
    | certificate _ hmode _ => cases h.symm.trans hmode
    | empty hmade' _ _ => simp [hmade] at hmade'
  | certificate hmade hmode h =>
    cases h' with
    | mode _ h' => cases hmode.symm.trans h'
    | certificate _ _ _ => rfl
    | empty hmade' _ _ => simp [hmade] at hmade'
  | empty hmade hmaterial hrequired =>
    cases h' with
    | mode hmade' _ => simp [hmade'] at hmade
    | certificate hmade' _ _ => simp [hmade'] at hmade
    | empty hmade' hmaterial' _ =>
      obtain ⟨rfl, -⟩ := List.append_inj' (hmade.symm.trans hmade') rfl
      cases hmaterial.symm.trans hmaterial'
      rfl

theorem Certificate.RefusesExport.unique {config : Config} {c : Certificate}
    {made : List Encounter} {fault fault' : Fault} (h : c.RefusesExport config made fault)
    (h' : c.RefusesExport config made fault') : fault = fault' := by
  cases h with
  | destination hmade htarget href hblank =>
    subst hmade
    cases h' with
    | destination => rfl
    | arn _ htarget' _ hname =>
      cases htarget.symm.trans htarget'
      exact absurd hblank (by simp [hname])
    | passphrase hmade' => cases hmade'
    | key hmade' => cases hmade'
  | arn hmade htarget href hname harn =>
    subst hmade
    cases h' with
    | destination _ htarget' _ hblank =>
      cases htarget.symm.trans htarget'
      exact absurd hblank (by simp [hname])
    | arn => rfl
    | passphrase hmade' => cases hmade'
    | key hmade' => cases hmade'
  | passphrase hmade href =>
    subst hmade
    cases h' with
    | destination hmade' => cases hmade'
    | arn hmade' => cases hmade'
    | passphrase _ href' =>
      cases href.symm.trans href'
      rfl
    | key hmade' => cases hmade'
  | key hmade htarget hdest hkey =>
    subst hmade
    cases h' with
    | destination hmade' => cases hmade'
    | arn hmade' => cases hmade'
    | passphrase hmade' => cases hmade'
    | key hmade' htarget' hdest' hkey' =>
      cases htarget.symm.trans htarget'
      cases hdest.eq.trans hdest'.eq.symm
      cases hmade'
      cases hkey.symm.trans hkey'
      rfl

namespace Operation

variable {o : Operation} {made : List Encounter} {fault fault' : Fault}

theorem CallFails.unique {n : Nat} {x : Encounter} (h : o.CallFails n x fault)
    (h' : o.CallFails n x fault') : fault = fault' := by
  cases h with
  | unresolved h =>
    cases h' with
    | unresolved h' =>
      cases h.symm.trans h'
      rfl
  | service => cases h'; rfl
  | unwritten => cases h'; rfl
  | stopped => cases h'; rfl

theorem CallFails.not_completed {n : Nat} {x : Encounter} (h : o.CallFails n x fault) :
    ¬x.Completed := by
  rintro ⟨a, ha⟩
  cases h <;> cases ha

theorem Refuses.unique (h : o.Refuses made fault) (h' : o.Refuses made fault') :
    fault = fault' := by
  cases o with
  | validate c =>
    obtain ⟨-, reason, hreason, rfl⟩ := h
    obtain ⟨-, reason', hreason', rfl⟩ := h'
    cases hreason.symm.trans hreason'
    rfl
  | importing config c => exact Certificate.RefusesImport.unique h h'
  | exporting config c => exact Certificate.RefusesExport.unique h h'
  | syncTags desired latest => exact h.2.2.trans h'.2.2.symm
  | observeTags latest => exact h.2.2.trans h'.2.2.symm

theorem FailsAt.unique (h : o.FailsAt made fault) (h' : o.FailsAt made fault') :
    fault = fault' := by
  cases h with
  | @call before x hmade _ h =>
    cases h' with
    | @call before' x' hmade' _ h' =>
      obtain ⟨rfl, hx⟩ := List.append_inj' (hmade.symm.trans hmade') rfl
      cases List.singleton_inj.mp hx
      exact h.unique h'
    | refusal hall _ => exact absurd (hall x (by simp [hmade])) h.not_completed
  | refusal hall h =>
    cases h' with
    | @call _ x hmade' _ h' => exact absurd (hall x (by simp [hmade'])) h'.not_completed
    | refusal _ h' => exact h.unique h'

end Operation

end CertSync
