import CertSync.Hook.Import
import CertSync.Proofs.Export.Run
import CertSync.Proofs.Session.Composition
import CertSync.Proofs.Tag.Service

/-!
# Operations

What a driver can have done for a certificate. Each operation is a hook of its own, and all of them
are put together from the same parts. So they all end at the first call that does not complete.
-/

namespace CertSync

inductive Operation where
  | validate (c : Certificate)
  | importing (config : Config) (c : Certificate)
  | exporting (config : Config) (c : Certificate)
  | syncTags (desired latest : Certificate)
  | observeTags (latest : Certificate)

namespace Operation

def Result : Operation → Type
  | validate _ => AcquisitionMode
  | importing _ _ => Option ImportOutcome
  | exporting _ _ => ExportOutcome
  | syncTags _ _ => Certificate
  | observeTags _ => Certificate

def hook : (o : Operation) → Hook o.Result
  | validate c => ExceptT.mk (pure c.validate)
  | importing config c => c.importHook config
  | exporting config c => c.exportHook config
  | syncTags desired latest => desired.syncTagsHook latest
  | observeTags latest => latest.observeTagsHook

end Operation

/-! ## What they are put together from -/

open Hook

namespace Certificate

variable {config : Config} {c : Certificate}

theorem resolveMaterial_composed (field : String) (ref : SecretRef) :
    (c.resolveMaterial field ref).Composed := by
  unfold resolveMaterial
  refine .bind (.resolve _ _ _ _) fun value => ?_
  cases value.isEmpty with
  | true => exact .bind (.throw _) fun _ => .pure _
  | false => exact .pure _

theorem importRef_composed (field : String) (ref : Option SecretRef) :
    (c.importRef field ref).Composed := by
  cases ref with
  | none => exact .throw _
  | some ref => exact .pure _

theorem resolveChain_composed : c.resolveChain.Composed := by
  unfold resolveChain
  cases c.spec.certificateChain with
  | none => exact .pure _
  | some ref => exact .bind (.resolve _ _ _ _) fun _ => .pure _

theorem importRequest_composed : c.importRequest.Composed := by
  unfold importRequest
  refine .bind (importRef_composed _ _) fun _ => .bind (importRef_composed _ _) fun _ => ?_
  refine .bind (resolveMaterial_composed _ _) fun _ => .bind (resolveMaterial_composed _ _) fun _ => ?_
  exact .bind resolveChain_composed fun _ => .pure _

theorem importHook_composed : (importHook config c).Composed := by
  unfold importHook
  cases c.mode with
  | error reason => exact .throw _
  | ok mode =>
    cases mode with
    | imported =>
      refine .bind (.log _) fun _ => .bind importRequest_composed fun _ => .bind (.log _) fun _ => ?_
      exact .bind (.service _ _) fun _ => .bind (.log _) fun _ => .bind (.wait _) fun _ => .pure _
    | requested => exact .pure _
    | unspecified => exact .pure _

theorem exportPassphrase_composed (ref : SecretRef) : (c.exportPassphrase ref).Composed := by
  unfold exportPassphrase
  refine .bind (.resolve _ _ _ _) fun value => ?_
  cases value.isEmpty with
  | true => exact .bind (.throw _) fun _ => .pure _
  | false => exact .pure _

theorem deliver_composed (passphrase : String) (dest : ExportDestination)
    (material : ExportedMaterial) : (c.deliver passphrase dest material).Composed := by
  unfold deliver
  refine .bind (.write _ _ _ _ _) fun _ => .bind (.log _) fun _ => ?_
  cases hkey : decryptKey (Bytes.ofText material.privateKey) (Bytes.ofText passphrase)
    (c.spec.keyAlgorithm.map KeyAlgorithm.family) with
  | error error =>
    simp only [hkey]
    exact .throw _
  | ok privateKey =>
    simp only [hkey]
    exact .write _ _ _ _ _

theorem exportMaterial_composed (arn : String) (ref : SecretRef) (dest : ExportDestination) :
    (c.exportMaterial arn ref dest).Composed := by
  unfold exportMaterial
  refine .bind (exportPassphrase_composed _) fun passphrase => .bind (.service _ _) fun answer => ?_
  cases answer with
  | notFound => exact .bind (.log _) fun _ => .pure _
  | exported material => exact .bind (deliver_composed _ _ _) fun _ => .bind (.log _) fun _ => .pure _

theorem exportHook_composed : (exportHook config c).Composed := by
  rcases exportHook_cases config c with h | ⟨e, h⟩ | ⟨_, _, _, _, _, _, _, h⟩ <;> rw [h]
  · exact .pure _
  · exact .throw _
  · exact .bind (.log _) fun _ => exportMaterial_composed _ _ _

end Certificate

theorem removeTags_composed (site : Site) (arn : String) (tags : TagSet) :
    (removeTags site arn tags).Composed := by
  cases hempty : tags.isEmpty with
  | true =>
    rw [removeTags_of_isEmpty hempty]
    exact .pure _
  | false =>
    rw [removeTags_of_not_isEmpty hempty]
    exact .bind (.forM fun _ => .log _) fun _ => .service _ _

theorem addTags_composed (site : Site) (arn : String) (tags : TagSet) :
    (addTags site arn tags).Composed := by
  cases hempty : tags.isEmpty with
  | true =>
    rw [addTags_of_isEmpty hempty]
    exact .pure _
  | false =>
    rw [addTags_of_not_isEmpty hempty]
    exact .bind (.forM fun _ => .log _) fun _ => .service _ _

theorem syncTags_composed (arn : String) (desired observed : TagSet) :
    (syncTags arn desired observed).Composed :=
  .bind (.log _) fun _ => .bind (removeTags_composed _ _ _) fun _ =>
    .bind (addTags_composed _ _ _) fun _ => .pure _

theorem Certificate.syncTagsHook_composed (desired latest : Certificate) :
    (syncTagsHook desired latest).Composed := by
  unfold syncTagsHook
  cases latest.arn? with
  | none => exact .throw _
  | some arn => exact .bind (.discard (syncTags_composed _ _ _)) fun _ => .pure _

theorem Certificate.observeTagsHook_composed (latest : Certificate) :
    (observeTagsHook latest).Composed := by
  unfold observeTagsHook
  cases latest.arn? with
  | none => exact .throw _
  | some arn => exact .bind (.service _ _) fun _ => .pure _

theorem Operation.composed (o : Operation) : o.hook.Composed := by
  cases o with
  | validate c =>
    rw [hook]
    cases c.validate with
    | error e => exact .throw e
    | ok mode => exact .pure mode
  | importing config c => exact Certificate.importHook_composed
  | exporting config c => exact Certificate.exportHook_composed
  | syncTags desired latest => exact Certificate.syncTagsHook_composed desired latest
  | observeTags latest => exact Certificate.observeTagsHook_composed latest

theorem Operation.prompt (o : Operation) : o.hook.Prompt := o.composed.prompt

end CertSync
