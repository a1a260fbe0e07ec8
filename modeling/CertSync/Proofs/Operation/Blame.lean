import CertSync.Proofs.Operation.Fault

/-!
# What the errors are blamed on

An operation that ends in an error has failed at a step, and one that returns has not. This is read
off each hook part by part, with the calls before the part at hand.
-/

namespace CertSync.Operation

variable {σ : Type} {o : Operation} {made : List Encounter} {fault : Fault}

/-! ## Blame -/

/-- The error is that of the step which failed. -/
def Blames (o : Operation) (e : HookError) (made : List Encounter) : Prop :=
  ∃ fault, o.FailsAt made fault ∧ e.cause = fault.cause

/-- No step failed. -/
def Clear (o : Operation) (made : List Encounter) : Prop := ∀ fault, ¬o.FailsAt made fault

/-- However its calls go, the operation is clear of faults when it returns and blames one if not. -/
abbrev Accountable (o : Operation) : Prop :=
  o.hook.Ensures (fun _ made => o.Clear made) o.Blames []

theorem clear_of_wentWell (h : WentWell made) (hrefuses : ∀ fault, ¬o.Refuses made fault) :
    o.Clear made := by
  intro fault hfault
  cases hfault with
  | @call _ x hmade _ hcall => exact hcall.not_completed (h x (by simp [hmade]))
  | refusal _ hfault => exact hrefuses fault hfault

section Calls

variable {site : Hook.Site}

theorem service_blames {c : ServiceCall} {ok : c.Answer → List Encounter → Prop} (h : WentWell made)
    (completed : ∀ a, ok a (made ++ [⟨.service c, .completed a⟩])) :
    (site.service c).Ensures ok o.Blames made :=
  .service completed (fun error => ⟨.service c error, .call rfl h .service, rfl⟩)
    ⟨.stopped _, .call rfl h .stopped, rfl⟩

theorem write_blames {ns name key value : String} {ok : Unit → List Encounter → Prop}
    (h : WentWell made)
    (completed : ok () (made ++ [⟨.secret (.write ns name key value), .completed ()⟩])) :
    (site.write ns name key value).Ensures ok o.Blames made :=
  .write completed (fun error => ⟨.unwritten _ error, .call rfl h .unwritten, rfl⟩)
    ⟨.stopped _, .call rfl h .stopped, rfl⟩

theorem resolve_blames {field : String} {ref : SecretRef} {required : Bool}
    {ok : String → List Encounter → Prop} (h : WentWell made)
    (hmaterial : o.materials[made.length]? = some ⟨field, ref, required⟩)
    (completed : ∀ value : String,
      ok value (made ++ [⟨.secret (.resolve o.subject.nsOrDefault ref), .completed value⟩])) :
    (site.resolve o.subject.nsOrDefault field ref).Ensures ok o.Blames made :=
  .resolve completed
    (fun _ => ⟨.unresolved field ref, .call rfl h (.unresolved hmaterial), rfl⟩)
    ⟨.stopped _, .call rfl h .stopped, rfl⟩

end Calls

/-! ## Imports -/

section Imports

variable {config : Config} {c : Certificate}

theorem resolveMaterial_blames {field : String} {ref : SecretRef}
    {ok : String → List Encounter → Prop} (h : WentWell made)
    (hmaterial : c.importMaterials[made.length]? = some ⟨field, ref, true⟩)
    (completed : ∀ value : String,
      ok value (made ++ [⟨.secret (.resolve c.nsOrDefault ref), .completed value⟩])) :
    (c.resolveMaterial field ref).Ensures ok (importing config c).Blames made := by
  unfold Certificate.resolveMaterial
  refine .bind (resolve_blames (o := importing config c) h hmaterial fun value => ?_)
  cases hempty : value.isEmpty with
  | true =>
    obtain rfl := String.isEmpty_iff.mp hempty
    have hrefuses := Certificate.RefusesImport.empty rfl hmaterial rfl
    exact .bind (.throw ⟨.emptyMaterial field, .refusal (h.append _ _) hrefuses, rfl⟩)
  | false => exact .pure (completed value)

theorem resolveChain_blames {ok : Option Bytes → List Encounter → Prop} (h : WentWell made)
    (hmaterial : ∀ ref, c.spec.certificateChain = some ref →
      c.importMaterials[made.length]? = some ⟨"certificateChain", ref, false⟩)
    (completed : ∀ chain after, WentWell after → ok chain after) :
    c.resolveChain.Ensures ok (importing config c).Blames made := by
  unfold Certificate.resolveChain
  cases hchain : c.spec.certificateChain with
  | none => exact .pure (completed none made h)
  | some ref =>
    refine .bind (resolve_blames (o := importing config c) h (hmaterial ref hchain) fun value => ?_)
    exact .pure (completed _ _ (h.append _ _))

theorem importRequest_blames {certificate privateKey : SecretRef}
    {ok : ImportRequest → List Encounter → Prop}
    (hcertificate : c.spec.certificate = some certificate)
    (hkey : c.spec.privateKey = some privateKey)
    (completed : ∀ request after, WentWell after → ok request after) :
    c.importRequest.Ensures ok (importing config c).Blames [] := by
  have hmaterials : c.importMaterials = c.materials certificate privateKey := by
    unfold Certificate.importMaterials
    rw [hcertificate, hkey]
  unfold Certificate.importRequest
  rw [hcertificate, hkey]
  refine .bind (.pure (.bind (.pure (.bind ?_))))
  refine resolveMaterial_blames .nil (by rw [hmaterials]; rfl) fun certificateText => ?_
  have hfirst := WentWell.nil.append (c.lookup ⟨"certificate", certificate, true⟩) certificateText
  refine .bind (resolveMaterial_blames hfirst (by rw [hmaterials]; rfl) fun keyText => ?_)
  have hboth := hfirst.append (c.lookup ⟨"privateKey", privateKey, true⟩) keyText
  refine .bind (resolveChain_blames hboth ?_ fun chain after hafter => ?_)
  · intro ref hchain
    rw [hmaterials, Certificate.materials, hchain]
    rfl
  · exact .pure (completed _ after hafter)

theorem submit_blames {request : ImportRequest} (h : WentWell made) :
    (c.submit config request).Ensures (fun _ after => (importing config c).Clear after)
      (importing config c).Blames made := by
  unfold Certificate.submit
  refine .bind (.log (.bind ?_))
  refine service_blames (c := .importCertificate request) h fun arn => ?_
  refine .bind (.log (.bind (.wait (.pure ?_))))
  refine clear_of_wentWell (h.append _ _) fun fault hrefuses => ?_
  cases hrefuses with
  | mode hmade _ => simp at hmade
  | certificate hmade _ _ => simp at hmade
  | empty hmade _ _ => cases List.append_inj' hmade rfl |>.2

theorem importing_accountable (config : Config) (c : Certificate) :
    (importing config c).Accountable := by
  change (Certificate.importHook config c).Ensures _ _ _
  cases hmode : c.mode with
  | error reason =>
    unfold Certificate.importHook
    rw [hmode]
    exact .throw ⟨.invalid reason, .refusal .nil (.mode rfl hmode), rfl⟩
  | ok mode =>
    by_cases himported : mode = .imported
    · subst himported
      rw [Certificate.importHook_of_imported hmode]
      refine .bind (.log (.bind ?_))
      obtain ⟨privateKey, hkey⟩ := Certificate.privateKey_of_imported hmode
      cases hcertificate : c.spec.certificate with
      | none =>
        rw [Certificate.importRequest_of_missing hcertificate]
        exact .throw ⟨_, .refusal .nil (.certificate rfl hmode hcertificate), rfl⟩
      | some certificate =>
        exact importRequest_blames hcertificate hkey fun _ _ hafter => submit_blames hafter
    · rw [Certificate.importHook_of_not_imported hmode himported]
      refine .pure (clear_of_wentWell .nil fun fault hrefuses => ?_)
      cases hrefuses with
      | mode _ h => cases hmode.symm.trans h
      | certificate _ h _ => cases hmode.symm.trans h; exact himported rfl
      | empty hmade _ _ => simp at hmade

end Imports

/-! ## Exports -/

section Exports

variable {config : Config} {c : Certificate} {target : ExportTarget} {ref : SecretRef}

theorem exportPassphrase_blames {ok : String → List Encounter → Prop}
    (href : c.spec.exportPassphrase = some ref)
    (completed : ∀ passphrase : String,
      ok passphrase [⟨c.passphraseCall ref, .completed passphrase⟩]) :
    (c.exportPassphrase ref).Ensures ok (exporting config c).Blames [] := by
  have hmaterial : (exporting config c).materials[0]? = some ⟨"exportPassphrase", ref, true⟩ := by
    rw [materials, href]
    rfl
  unfold Certificate.exportPassphrase
  refine .bind (resolve_blames (o := exporting config c) .nil hmaterial fun value => ?_)
  cases hempty : value.isEmpty with
  | true =>
    obtain rfl := String.isEmpty_iff.mp hempty
    have hrefuses : c.RefusesExport config [⟨c.passphraseCall ref, .completed ""⟩]
      (.emptyPassphrase ref) := .passphrase rfl href
    exact .bind (.throw ⟨_, .refusal (WentWell.nil.append _ _) hrefuses, rfl⟩)
  | false => exact .pure (completed value)

/-- The calls of an export up to the answer of the service. -/
def fetched (c : Certificate) (ref : SecretRef) (arn passphrase : String)
    (answer : ExportAnswer) : List Encounter :=
  [⟨c.passphraseCall ref, .completed passphrase⟩,
    ⟨Certificate.exportCall arn passphrase, .completed answer⟩]

theorem wentWell_fetched (c : Certificate) (ref : SecretRef) (arn passphrase : String)
    (answer : ExportAnswer) : WentWell (fetched c ref arn passphrase answer) :=
  (WentWell.nil.append (c.passphraseCall ref) passphrase).append
    (Certificate.exportCall arn passphrase) answer

theorem deliver_blames (ref : SecretRef) (arn : String) {passphrase : String}
    {material : ExportedMaterial} {ok : Unit → List Encounter → Prop}
    (htarget : c.spec.exportTo = some target)
    (completed : ∀ after, WentWell after → after.length = 4 → ok () after) :
    (c.deliver passphrase (c.exportDestination config target) material).Ensures ok
      (exporting config c).Blames (fetched c ref arn passphrase (.exported material)) := by
  have hfetched := wentWell_fetched c ref arn passphrase (.exported material)
  unfold Certificate.deliver
  rw [material.bundle_eq]
  refine .bind (write_blames hfetched (.bind (.log ?_)))
  have hdest := c.exportDestination_completes config target
  have hwritten := hfetched.append ((c.exportDestination config target).certificateCall material) ()
  cases hkey : decryptKey (Bytes.ofText material.privateKey) (Bytes.ofText passphrase)
    (c.spec.keyAlgorithm.map KeyAlgorithm.family) with
  | error error =>
    simp only [hkey]
    exact .throw ⟨.decryption error, .refusal hwritten (.key rfl htarget hdest hkey), rfl⟩
  | ok privateKey =>
    simp only [hkey]
    exact write_blames hwritten (completed _ (hwritten.append _ _) rfl)

theorem exportMaterial_blames {arn : String} (htarget : c.spec.exportTo = some target)
    (href : c.spec.exportPassphrase = some ref) :
    (c.exportMaterial arn ref (c.exportDestination config target)).Ensures
      (fun _ made => WentWell made ∧ 1 < made.length ∧ made.length ≠ 3)
      (exporting config c).Blames [] := by
  unfold Certificate.exportMaterial
  refine .bind (exportPassphrase_blames href fun passphrase => .bind ?_)
  refine service_blames (c := .exportCertificate arn (Bytes.ofText passphrase))
    (WentWell.nil.append (c.passphraseCall ref) passphrase) fun answer => ?_
  have hfetched := wentWell_fetched c ref arn passphrase answer
  cases answer with
  | notFound => exact .bind (.log (.pure ⟨hfetched, by simp, by simp⟩))
  | exported material =>
    refine .bind (deliver_blames ref arn htarget fun after hafter hlength => ?_)
    exact .bind (.log (.pure ⟨hafter, by omega, by omega⟩))

theorem exportMaterial_accountable {arn : String} (htarget : c.spec.exportTo = some target)
    (href : c.spec.exportPassphrase = some ref) :
    (c.exportMaterial arn ref (c.exportDestination config target)).Ensures
      (fun _ made => (exporting config c).Clear made) (exporting config c).Blames [] := by
  refine (exportMaterial_blames htarget href).mono ?_
  rintro _ made ⟨hmade, hmore, hlength⟩
  refine clear_of_wentWell hmade fun fault hrefuses => ?_
  cases hrefuses with
  | destination hnone => simp [hnone] at hmore
  | arn hnone => simp [hnone] at hmore
  | passphrase hone => simp [hone] at hmore
  | key hthree => simp [hthree] at hlength

theorem unset_not_refused (h : c.spec.exportTo = none ∨ c.spec.exportPassphrase = none) :
    ¬c.RefusesExport config [] fault := by
  intro hrefuses
  cases hrefuses with
  | destination _ htarget href _ => simp [htarget, href] at h
  | arn _ htarget href _ _ => simp [htarget, href] at h
  | passphrase hmade _ => cases hmade
  | key hmade => cases hmade

theorem unset_accountable (h : c.spec.exportTo = none ∨ c.spec.exportPassphrase = none) :
    (exporting config c).Accountable := by
  change (Certificate.exportHook config c).Ensures _ _ _
  rw [Certificate.exportHook_of_unset h]
  exact .pure (clear_of_wentWell .nil fun _ => unset_not_refused h)

theorem exporting_accountable (config : Config) (c : Certificate) :
    (exporting config c).Accountable := by
  cases htarget : c.spec.exportTo with
  | none => exact unset_accountable (.inl htarget)
  | some target =>
    cases href : c.spec.exportPassphrase with
    | none => exact unset_accountable (.inr href)
    | some ref =>
      change (Certificate.exportHook config c).Ensures _ _ _
      cases hname : Text.allBlank target.name with
      | true =>
        rw [Certificate.exportHook_of_blank htarget href hname]
        exact .throw ⟨_, .refusal .nil (.destination rfl htarget href hname), rfl⟩
      | false =>
        cases harn : c.arn? with
        | none =>
          rw [Certificate.exportHook_of_missing_arn htarget href hname harn]
          exact .throw ⟨_, .refusal .nil (.arn rfl htarget href hname harn), rfl⟩
        | some arn =>
          rw [Certificate.exportHook_of_fields htarget href hname harn]
          exact .bind (.log (exportMaterial_accountable htarget href))

end Exports

/-! ## Tags -/

section Tags

variable {site : Hook.Site} {arn : String} {tags : TagSet}

theorem removeTags_blames {ok : Unit → List Encounter → Prop} (h : WentWell made)
    (completed : ∀ after, WentWell after → ok () after) :
    (removeTags site arn tags).Ensures ok o.Blames made := by
  cases hempty : tags.isEmpty with
  | true =>
    rw [removeTags_of_isEmpty hempty]
    exact .pure (completed made h)
  | false =>
    rw [removeTags_of_not_isEmpty hempty]
    refine .bind (.forM_log (service_blames (c := .removeTags arn tags) h fun _ => ?_))
    exact completed _ (h.append _ _)

theorem addTags_blames {ok : Unit → List Encounter → Prop} (h : WentWell made)
    (completed : ∀ after, WentWell after → ok () after) :
    (addTags site arn tags).Ensures ok o.Blames made := by
  cases hempty : tags.isEmpty with
  | true =>
    rw [addTags_of_isEmpty hempty]
    exact .pure (completed made h)
  | false =>
    rw [addTags_of_not_isEmpty hempty]
    refine .bind (.forM_log (service_blames (c := .addTags arn tags) h fun _ => ?_))
    exact completed _ (h.append _ _)

theorem syncTags_accountable (desired latest : Certificate) :
    (syncTags desired latest).Accountable := by
  simp only [Accountable, hook, Certificate.syncTagsHook]
  cases harn : latest.arn? with
  | none => exact .throw ⟨.missingArn "sync tags", .refusal .nil ⟨rfl, harn, rfl⟩, rfl⟩
  | some arn =>
    refine .bind (.discard (.bind (.log (.bind ?_))))
    refine removeTags_blames .nil fun removed hremoved => .bind ?_
    refine addTags_blames hremoved fun added hadded => .pure (.pure ?_)
    refine clear_of_wentWell hadded fun fault hrefuses => ?_
    cases harn.symm.trans hrefuses.2.1

theorem observeTags_accountable (latest : Certificate) : (observeTags latest).Accountable := by
  simp only [Accountable, hook, Certificate.observeTagsHook]
  cases harn : latest.arn? with
  | none => exact .throw ⟨.missingArn "list tags", .refusal .nil ⟨rfl, harn, rfl⟩, rfl⟩
  | some arn =>
    refine .bind (service_blames (c := .listTags arn) .nil fun _ => .pure ?_)
    refine clear_of_wentWell (WentWell.nil.append _ _) fun fault hrefuses => ?_
    cases harn.symm.trans hrefuses.2.1

end Tags

/-! ## Operations -/

theorem validate_accountable (c : Certificate) : (validate c).Accountable := by
  rw [Accountable, hook, Certificate.validate]
  cases hcheck : c.check with
  | error reason =>
    exact .error ⟨.invalid reason, .refusal .nil ⟨rfl, reason, hcheck, rfl⟩, rfl⟩
  | ok mode =>
    refine .ok (clear_of_wentWell .nil ?_)
    rintro fault ⟨-, reason, hreason, -⟩
    cases hcheck.symm.trans hreason

theorem accountable (o : Operation) : o.Accountable := by
  cases o with
  | validate c => exact validate_accountable c
  | importing config c => exact importing_accountable config c
  | exporting config c => exact exporting_accountable config c
  | syncTags desired latest => exact syncTags_accountable desired latest
  | observeTags latest => exact observeTags_accountable latest

theorem Refuses.not_stopped {c : Call} : ¬o.Refuses made (.stopped c) := by
  intro h
  cases o with
  | validate c => cases h.2.choose_spec.2
  | importing config c => cases h
  | exporting config c => cases h
  | syncTags desired latest => cases h.2.2
  | observeTags latest => cases h.2.2

theorem FailsAt.exists_stopped {c : Call} (h : o.FailsAt made (.stopped c)) :
    ∃ x ∈ made, x.outcome = .stopped := by
  cases h with
  | @call before x hmade _ hcall =>
    refine ⟨x, by simp [hmade], ?_⟩
    cases hcall
    rfl
  | refusal _ hrefuses => exact absurd hrefuses Refuses.not_stopped

/-- A run that returns failed at no step. A run that ends in an error failed at one, and that step
explains the error. -/
theorem hook_fault (o : Operation) (world : Collaborators σ) (s : Session σ) :
    let ran := Session.run world o.hook s
    let made := Session.encounters world o.hook s
    (∀ a, ran.1 = .ok a → ∀ fault, ¬o.FailsAt made fault) ∧
      ∀ e, ran.1 = .error e → ∃ fault, (∀ other, o.FailsAt made other ↔ other = fault) ∧
        fault.Explains e ∧ ((∃ c, fault = .stopped c) → ran.2.cancelled = true) := by
  intro ran made
  obtain ⟨hok, herror⟩ := Session.run_ensured world o.accountable s
  refine ⟨hok, fun e he => ?_⟩
  obtain ⟨fault, hfault, hcause⟩ := herror e he
  refine ⟨fault, fun other => ⟨fun h => h.unique hfault, fun h => h ▸ hfault⟩,
    Fault.explains_of_cause hcause, ?_⟩
  rintro ⟨c, rfl⟩
  obtain ⟨x, hx, hstopped⟩ := hfault.exists_stopped
  exact Session.cancelled_of_stopped world o.hook hx hstopped

/-- Where every call fails, an import fails at its first reference, and that needs an edit. -/
theorem throttled_import_explained :
    ∃ e, (Session.run (World.collaborators throttled) (importing {} Certificate.importing).hook
        { world := {} }).1 = .error e ∧
      (Fault.unresolved "certificate" ⟨"imported", none, "tls.crt"⟩).Explains e ∧
      e.isTerminal = true := by
  let o := importing {} Certificate.importing
  have hat : o.FailsAt
      (Session.encounters (World.collaborators throttled) o.hook { world := {} })
      (.unresolved "certificate" ⟨"imported", none, "tls.crt"⟩) :=
    .call (show _ = [] ++ [_] from rfl) nofun (.unresolved rfl)
  obtain ⟨fault, hfault, hexplains, -⟩ :=
    (hook_fault o (World.collaborators throttled) { world := {} }).2 _ rfl
  obtain rfl := (hfault _).mp hat
  exact ⟨_, rfl, hexplains, rfl⟩

end CertSync.Operation
