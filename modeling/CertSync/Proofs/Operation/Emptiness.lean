import CertSync.Proofs.Key.Sealed
import CertSync.Proofs.Operation.Naming
import CertSync.Proofs.Resource.Emptiness
import CertSync.SecretStore.Access

/-!
# Operations on what is empty and what is absent

Two resources that differ only in which fields are left out and which are left empty have the same
done for them: the same calls go to the collaborators, up to the namespaces that references name
themselves, and the same log, records and results come of it.
-/

namespace CertSync

open Hook (Mirrors)

variable {σ τ : Type}

/-- The calls read the same entry. -/
inductive Call.SameEffect : Call → Call → Prop
  | same (c : Call) : SameEffect c c
  | resolve (ns : String) {ref ref' : SecretRef} (h : ref'.cleared = ref.cleared) :
      SameEffect (.secret (.resolve ns ref)) (.secret (.resolve ns ref'))

/-- Answers are the same, up to the emptiness of an exported chain. -/
def emptiness : Likeness where
  call := Call.SameEffect
  answer
    | .secret (.resolve _ _), .secret (.resolve _ _), value, value' => (value : String) = value'
    | .service (.importCertificate _), .service (.importCertificate _), arn, arn' =>
      (arn : String) = arn'
    | .service (.exportCertificate _ _), .service (.exportCertificate _ _), answer, answer' =>
      ExportAnswer.cleared answer' = ExportAnswer.cleared answer
    | .service (.listTags _), .service (.listTags _), tags, tags' => (tags : TagSet) = tags'
    | _, _, _, _ => True

theorem SecretRef.toText_of_cleared {ref ref' : SecretRef} (h : ref'.cleared = ref.cleared) :
    ref'.toText = ref.toText := by
  rw [← toText_cleared ref', h, toText_cleared]

theorem SecretRef.nsOr_of_cleared {ref ref' : SecretRef} (h : ref'.cleared = ref.cleared)
    (fallback : String) : ref'.nsOr fallback = ref.nsOr fallback := by
  rw [← nsOr_cleared ref', h, nsOr_cleared]

theorem resolve_mirrors {site : Hook.Site} {ns field : String} {ref ref' : SecretRef}
    (h : ref'.cleared = ref.cleared) :
    Mirrors emptiness Eq (site.resolve ns field ref) (site.resolve ns field ref') :=
  .resolve_of_toText site ns field (SecretRef.toText_of_cleared h) (.resolve ns h)

namespace Certificate

variable {config : Config} {c c' : Certificate}

/-! ## Exports -/

theorem exportSite_of_matches (h : c.Matches c') : c'.exportSite = c.exportSite := by
  rw [exportSite, h.resourceKey, exportSite]

theorem exportPassphrase_emptiness (h : c.Matches c') {ref ref' : SecretRef}
    (href : ref'.cleared = ref.cleared) :
    Mirrors emptiness Eq (c.exportPassphrase ref) (c'.exportPassphrase ref') := by
  unfold exportPassphrase
  rw [exportSite_of_matches h, h.nsOrDefault, SecretRef.toText_of_cleared href]
  refine .bind (resolve_mirrors href) fun value value' hvalue => ?_
  subst hvalue
  cases value.isEmpty with
  | true => exact .throw _
  | false => exact .pure rfl

theorem deliver_emptiness (h : c.Matches c') (passphrase : String) (dest : ExportDestination)
    {m m' : ExportedMaterial} (hm : m'.cleared = m.cleared) :
    Mirrors emptiness (fun _ _ => True) (c.deliver passphrase dest m)
      (c'.deliver passphrase dest m') := by
  have hbundle : m'.bundle = m.bundle := by
    rw [← ExportedMaterial.bundle_cleared m', hm, ExportedMaterial.bundle_cleared]
  have hkey : m'.privateKey = m.privateKey := congrArg (fun m => m.privateKey) hm
  have halgorithm : c'.spec.keyAlgorithm = c.spec.keyAlgorithm :=
    h.congr (f := fun c => c.spec.keyAlgorithm) fun _ => rfl
  unfold deliver
  rw [exportSite_of_matches h, hbundle, hkey, halgorithm]
  refine .bind (.write _ _ _ _ (.same _)) fun _ _ _ => .bind (.log _) fun _ _ _ => ?_
  cases hread : decryptKey (Bytes.ofText m.privateKey) (Bytes.ofText passphrase)
    (c.spec.keyAlgorithm.map KeyAlgorithm.family) with
  | error error =>
    simp only [hread]
    exact .throw _
  | ok privateKey =>
    simp only [hread]
    exact .write _ _ _ _ (.same _)

theorem exportMaterial_emptiness (h : c.Matches c') (arn : String) {ref ref' : SecretRef}
    (href : ref'.cleared = ref.cleared) (dest : ExportDestination) :
    Mirrors emptiness Eq (c.exportMaterial arn ref dest) (c'.exportMaterial arn ref' dest) := by
  unfold exportMaterial
  rw [exportSite_of_matches h, h.resourceKey]
  refine .bind (exportPassphrase_emptiness h href) fun passphrase passphrase' hpassphrase => ?_
  subst hpassphrase
  have hexport : Mirrors emptiness (fun answer answer' => answer'.cleared = answer.cleared)
      (c.exportSite.service (.exportCertificate arn (Bytes.ofText passphrase)))
      (c.exportSite.service (.exportCertificate arn (Bytes.ofText passphrase))) :=
    .service _ (.exportCertificate arn _) (.exportCertificate arn _) rfl rfl (.same _)
  refine .bind hexport fun answer answer' hanswer => ?_
  cases answer with
  | notFound =>
    cases answer' with
    | notFound => exact .bind (.log _) fun _ _ _ => .pure rfl
    | exported m' => cases hanswer
  | exported m =>
    cases answer' with
    | notFound => cases hanswer
    | exported m' =>
      refine .bind (deliver_emptiness h passphrase dest (ExportAnswer.exported.inj hanswer))
        fun _ _ _ => ?_
      exact .bind (.log _) fun _ _ _ => .pure rfl

theorem exportHook_emptiness (h : c.Matches c') :
    Mirrors emptiness Eq (exportHook config c) (exportHook config c') := by
  have htarget : c'.spec.exportTo = c.spec.exportTo :=
    h.congr (f := fun c => c.spec.exportTo) fun _ => rfl
  have harn : c'.arn? = c.arn? := h.congr arn?_cleared
  cases htarget' : c.spec.exportTo with
  | none =>
    rw [exportHook_of_unset (.inl htarget'), exportHook_of_unset (.inl (htarget.trans htarget'))]
    exact .pure rfl
  | some target =>
    rcases h.ref (f := fun s => s.exportPassphrase) fun _ => rfl with
      ⟨hleft, hright⟩ | ⟨ref, ref', hleft, hright, href⟩
    · rw [exportHook_of_unset (.inr hleft), exportHook_of_unset (.inr hright)]
      exact .pure rfl
    have htarget := htarget.trans htarget'
    cases hname : Text.allBlank target.name with
    | true =>
      rw [exportHook_of_blank htarget' hleft hname, exportHook_of_blank htarget hright hname,
        exportSite_of_matches h]
      exact .throw _
    | false =>
      cases harn' : c.arn? with
      | none =>
        rw [exportHook_of_missing_arn htarget' hleft hname harn',
          exportHook_of_missing_arn htarget hright hname (harn.trans harn'), h.resourceKey]
        exact .throw _
      | some arn =>
        have hdest : c'.exportDestination config target = c.exportDestination config target := by
          rw [exportDestination, h.nsOrDefault, exportDestination]
        have hspan (dest : ExportDestination) : c'.exportSpan arn dest = c.exportSpan arn dest := by
          rw [exportSpan, h.nameOrUnknown, h.nsOrDefault, exportSpan]
        rw [exportHook_of_fields htarget' hleft hname harn',
          exportHook_of_fields htarget hright hname (harn.trans harn'), hdest, hspan]
        exact .bind (.log _) fun _ _ _ => exportMaterial_emptiness h arn href _

/-! ## Imports -/

theorem importSite_of_matches (h : c.Matches c') : c'.importSite = c.importSite := by
  rw [importSite, h.resourceKey, importSite]

theorem importRef_emptiness (h : c.Matches c') (name : String)
    {f : CertificateSpec → Option SecretRef}
    (hf : ∀ s : CertificateSpec, f s.cleared = (f s).map SecretRef.cleared) :
    Mirrors emptiness (fun ref ref' => ref'.cleared = ref.cleared)
      (c.importRef name (f c.spec)) (c'.importRef name (f c'.spec)) := by
  rcases h.ref hf with ⟨hleft, hright⟩ | ⟨ref, ref', hleft, hright, href⟩
  · rw [hleft, hright, importRef, importRef, importSite_of_matches h]
    exact .throw _
  · rw [hleft, hright]
    exact .pure href

theorem resolveMaterial_emptiness (h : c.Matches c') (field : String) {ref ref' : SecretRef}
    (href : ref'.cleared = ref.cleared) :
    Mirrors emptiness Eq (c.resolveMaterial field ref) (c'.resolveMaterial field ref') := by
  unfold resolveMaterial
  rw [importSite_of_matches h, h.nsOrDefault]
  refine .bind (resolve_mirrors href) fun value value' hvalue => ?_
  subst hvalue
  cases value.isEmpty with
  | true => exact .throw _
  | false => exact .pure rfl

theorem resolveChain_emptiness (h : c.Matches c') :
    Mirrors emptiness Eq c.resolveChain c'.resolveChain := by
  unfold resolveChain
  rcases h.ref (f := fun s => s.certificateChain) fun _ => rfl with
    ⟨hleft, hright⟩ | ⟨ref, ref', hleft, hright, href⟩
  · simp only [hleft, hright]
    exact .pure rfl
  · simp only [hleft, hright, importSite_of_matches h, h.nsOrDefault]
    refine .bind (resolve_mirrors href) fun value value' hvalue => ?_
    subst hvalue
    exact .pure rfl

theorem importRequest_emptiness (h : c.Matches c') :
    Mirrors emptiness Eq c.importRequest c'.importRequest := by
  unfold importRequest
  rw [h.tags]
  refine .bind (importRef_emptiness h _ (f := fun s => s.certificate) fun _ => rfl)
    fun ref ref' href => ?_
  refine .bind (importRef_emptiness h _ (f := fun s => s.privateKey) fun _ => rfl)
    fun keyRef keyRef' hkeyRef => ?_
  refine .bind (resolveMaterial_emptiness h _ href) fun certificate certificate' hcertificate => ?_
  refine .bind (resolveMaterial_emptiness h _ hkeyRef) fun key key' hkey => ?_
  refine .bind (resolveChain_emptiness h) fun chain chain' hchain => ?_
  subst hcertificate hkey hchain
  exact .pure rfl

/-- The resource that was returned for `c'` is the one for `c`, but with its own fields. -/
def Returned (c c' returned returned' : Certificate) : Prop :=
  returned.spec = c.spec ∧ returned' = { returned with spec := c'.spec }

def ReturnedImport (c c' : Certificate) : Option ImportOutcome → Option ImportOutcome → Prop
  | none, none => True
  | some outcome, some outcome' =>
    outcome'.created = outcome.created ∧ c.Returned c' outcome.resource outcome'.resource
  | _, _ => False

theorem submit_emptiness (h : c.Matches c') (request : ImportRequest) :
    Mirrors emptiness (c.ReturnedImport c') (c.submit config request)
      (c'.submit config request) := by
  unfold submit
  rw [h.resourceKey, importSite_of_matches h]
  have himport : Mirrors emptiness (fun arn arn' : String => arn = arn')
      (c.importSite.service (.importCertificate request))
      (c.importSite.service (.importCertificate request)) :=
    .service _ (.importCertificate request) (.importCertificate request) rfl rfl (.same _)
  refine .bind (.log _) fun _ _ _ => .bind himport fun arn arn' harn => ?_
  subst harn
  refine .bind (.log _) fun _ _ _ => .bind (.wait _) fun _ _ _ => .pure ?_
  exact ⟨rfl, rfl, h.imported arn⟩

theorem importHook_emptiness (h : c.Matches c') :
    Mirrors emptiness (c.ReturnedImport c') (importHook config c) (importHook config c') := by
  have hmode' : c'.mode = c.mode := h.congr mode_cleared
  cases hmode : c.mode with
  | error reason =>
    unfold importHook
    rw [hmode', hmode, importSite_of_matches h]
    exact .throw _
  | ok mode =>
    cases mode with
    | imported =>
      have hspan : c'.importSpan = c.importSpan := by
        rw [importSpan, h.nameOrUnknown, h.nsOrDefault, importSpan]
      rw [importHook_of_imported hmode, importHook_of_imported (hmode'.trans hmode), hspan]
      refine .bind (.log _) fun _ _ _ => .bind (importRequest_emptiness h) fun r r' hr => ?_
      subst hr
      exact submit_emptiness h r
    | requested =>
      unfold importHook
      rw [hmode', hmode]
      exact .pure trivial
    | unspecified =>
      unfold importHook
      rw [hmode', hmode]
      exact .pure trivial

/-! ## Tags -/

theorem tagCall_same (call : Call) (hcall : call.isForTags = true) :
    emptiness.call call call ∧ ∀ a b, emptiness.answer call call a b → a = b := by
  refine ⟨.same call, fun a b hab => ?_⟩
  cases call with
  | secret call => cases hcall
  | service call =>
    cases call with
    | importCertificate request => cases hcall
    | exportCertificate arn passphrase => cases hcall
    | addTags arn tags => rfl
    | removeTags arn tags => rfl
    | listTags arn => exact hab

theorem syncTagsHook_emptiness {desired desired' : Certificate}
    (hdesired : desired.Matches desired') (h : c.Matches c') :
    Mirrors emptiness (c.Returned c') (syncTagsHook desired c) (syncTagsHook desired' c') := by
  unfold syncTagsHook
  have htags : desired'.desiredTags = desired.desiredTags := hdesired.congr fun _ => rfl
  rw [h.congr arn?_cleared, h.congr syncedTags_cleared, h.resourceKey, htags]
  cases harn : c.arn? with
  | none => exact .throw _
  | some arn =>
    have hsync := (syncTags_confined arn desired.desiredTags c.syncedTags).discard
    exact .bind (hsync.mirrors tagCall_same) fun _ _ _ =>
      .pure ⟨rfl, h.withStatusTags harn _⟩

theorem observeTagsHook_emptiness (h : c.Matches c') :
    Mirrors emptiness (c.Returned c') (observeTagsHook c) (observeTagsHook c') := by
  unfold observeTagsHook
  rw [h.congr arn?_cleared, h.resourceKey]
  cases harn : c.arn? with
  | none => exact .throw _
  | some arn =>
    refine .bind ((listTags_confined arn).mirrors tagCall_same) fun tags tags' htags => ?_
    subst htags
    exact .pure ⟨rfl, h.withStatusTags harn _⟩

end Certificate

/-! ## Operations -/

namespace Operation

/-- The operations do the same for resources that differ in emptiness only. -/
inductive Matches : Operation → Operation → Prop
  | validate {c c' : Certificate} (h : c.Matches c') : Matches (validate c) (validate c')
  | importing (config : Config) {c c' : Certificate} (h : c.Matches c') :
      Matches (importing config c) (importing config c')
  | exporting (config : Config) {c c' : Certificate} (h : c.Matches c') :
      Matches (exporting config c) (exporting config c')
  | syncTags {desired desired' latest latest' : Certificate} (hdesired : desired.Matches desired')
      (hlatest : latest.Matches latest') : Matches (syncTags desired latest)
      (syncTags desired' latest')
  | observeTags {latest latest' : Certificate} (h : latest.Matches latest') :
      Matches (observeTags latest) (observeTags latest')

/-- The results are the same, up to the fields of a resource that is returned. -/
def SameResult : (o o' : Operation) → o.Result → o'.Result → Prop
  | validate _, validate _, mode, mode' => (mode : AcquisitionMode) = mode'
  | importing _ c, importing _ c', outcome, outcome' => c.ReturnedImport c' outcome outcome'
  | exporting _ _, exporting _ _, outcome, outcome' => (outcome : ExportOutcome) = outcome'
  | syncTags _ latest, syncTags _ latest', updated, updated' =>
    latest.Returned latest' updated updated'
  | observeTags latest, observeTags latest', updated, updated' =>
    latest.Returned latest' updated updated'
  | _, _, _, _ => False

theorem Matches.mirrors {o o' : Operation} (h : Matches o o') :
    Mirrors emptiness (SameResult o o') o.hook o'.hook := by
  cases h with
  | @validate c c' h =>
    simp only [hook, h.congr Certificate.validate_cleared]
    cases c.validate with
    | error e => exact .throw e
    | ok mode => exact .pure rfl
  | importing config h => exact Certificate.importHook_emptiness h
  | exporting config h => exact Certificate.exportHook_emptiness h
  | syncTags hdesired hlatest => exact Certificate.syncTagsHook_emptiness hdesired hlatest
  | observeTags h => exact Certificate.observeTagsHook_emptiness h

variable {o o' : Operation} {world : Collaborators σ} {world' : Collaborators τ} {s : Session σ}
  {t : Session τ}

/-- Whether such a field is left out or left empty makes no difference to a run: with collaborators
that behave alike on calls of the same effect, the runs make such calls, end alike and leave the
same log and the same records. -/
theorem hook_emptiness (h : Matches o o') (hst : Session.Twins emptiness s t)
    (hmeets : ∀ step ∈ (Session.trace world o.hook s).zip (Session.trace world' o'.hook t),
      emptiness.Meets world world' step) :
    Session.EndLike (SameResult o o') (Session.run world o.hook s).1
        (Session.run world' o'.hook t).1 ∧
      Session.Twins emptiness (Session.run world o.hook s).2 (Session.run world' o'.hook t).2 :=
  Session.run_like h.mirrors hst hmeets

end Operation

/-! ## Collaborators in memory -/

namespace World

/-- The worlds differ at most in whether the exported chain is left out or empty. -/
structure SameUpToChain (w w' : World) : Prop where
  secrets : w'.secrets = w.secrets
  remoteTags : w'.remoteTags = w.remoteTags
  importArn : w'.importArn = w.importArn
  exportAnswer : w'.exportAnswer.cleared = w.exportAnswer.cleared

variable {w w' : World}

theorem SameUpToChain.answerService (h : w.SameUpToChain w') (c : ServiceCall) :
    emptiness.answer (.service c) (.service c) (w.answerService c).1 (w'.answerService c).1 ∧
      (w.answerService c).2.SameUpToChain (w'.answerService c).2 := by
  obtain ⟨hsecrets, htags, harn, hanswer⟩ := h
  cases c with
  | importCertificate request => exact ⟨harn.symm, hsecrets, rfl, harn, hanswer⟩
  | exportCertificate arn passphrase => exact ⟨hanswer, hsecrets, htags, harn, hanswer⟩
  | addTags arn tags =>
    exact ⟨trivial, hsecrets, by simp only [World.answerService, htags], harn, hanswer⟩
  | removeTags arn tags =>
    exact ⟨trivial, hsecrets, by simp only [World.answerService, htags], harn, hanswer⟩
  | listTags arn => exact ⟨htags.symm, hsecrets, htags, harn, hanswer⟩

theorem resolve_alike (h : w.SameUpToChain w') (ns : String) {ref ref' : SecretRef}
    (href : ref'.cleared = ref.cleared) :
    (collaborators (fun _ => {}) (.secret (.resolve ns ref)) w).1.Like
        (emptiness.answer (.secret (.resolve ns ref)) (.secret (.resolve ns ref')))
        (collaborators (fun _ => {}) (.secret (.resolve ns ref')) w').1 ∧
      SameUpToChain (collaborators (fun _ => {}) (.secret (.resolve ns ref)) w).2
        (collaborators (fun _ => {}) (.secret (.resolve ns ref')) w').2 := by
  have hns : ref'.nsOr ns = ref.nsOr ns := SecretRef.nsOr_of_cleared href ns
  have hname : ref'.name = ref.name :=
    (congrArg SecretRef.name href : ref'.cleared.name = ref.cleared.name)
  have hkey : ref'.key = ref.key :=
    (congrArg SecretRef.key href : ref'.cleared.key = ref.cleared.key)
  rw [collaborators_of_answer rfl rfl, collaborators_of_answer rfl rfl, answer, answer,
    answerSecret_resolve, answerSecret_resolve, SecretRef.entry, SecretRef.entry, hns, hname, hkey,
    h.secrets]
  cases w.secrets[(⟨ref.nsOr ns, ref.name, ref.key⟩ : EntryId)]? with
  | none => exact ⟨⟨.fails _, rfl⟩, h⟩
  | some value => exact ⟨⟨.returns rfl, rfl⟩, h⟩

theorem behaveAlike : Session.BehaveAlike emptiness SameUpToChain (collaborators fun _ => {})
    (collaborators fun _ => {}) := by
  intro c d w w' hcall h
  cases hcall with
  | resolve ns href => exact resolve_alike h ns href
  | same c =>
    cases c with
    | service c =>
      obtain ⟨hanswer, hafter⟩ := h.answerService c
      exact ⟨⟨.returns hanswer, rfl⟩, hafter⟩
    | secret c =>
      cases c with
      | resolve ns ref => exact resolve_alike h ns rfl
      | write ns name key value =>
        exact ⟨⟨.returns trivial, rfl⟩, congrArg (·.insert ⟨ns, name, key⟩ value) h.secrets,
          h.remoteTags, h.importArn, h.exportAnswer⟩

end World

namespace Certificate

/-! ## Two exports that differ in emptiness -/

/-- The resource of an export with empty texts in place of what it leaves out. -/
def exportingEmpty : Certificate := { exporting "" with
  spec := { (exporting "").spec with
    certificateAuthorityArn := some ""
    exportPassphrase := some ⟨"ps", some "", "passphrase"⟩ } }

/-- The service hands out a certificate with this chain. -/
def chainWorld (chain : Option String) (pem : String) : World := { exportWorld pem with
  exportAnswer := .exported { certificate := "CERT", chain, privateKey := pem } }

theorem exporting_chain_delivers (chain : Option String) {pem privateKey : String}
    (h : decryptKey (Bytes.ofText pem) (Bytes.ofText "pw") none = .ok privateKey) :
    (exporting "").Delivers {} (chainWorld chain pem).answers (chainWorld chain pem).secrets
      { exportDelivery "" pem privateKey with
        material := { certificate := "CERT", chain, privateKey := pem } } :=
  have hd := exporting_delivers "" h
  ⟨hd.destination, hd.reference, hd.arn, hd.passphraseEntry, hd.passphrase, hd.notEmpty, rfl, h⟩

/-- Both exports succeed alike, with the empty texts and without them. -/
theorem exporting_emptiness :
    ∃ (pem : String) (r : Except HookError ExportOutcome),
      r = .ok (.exported ⟨"default", "tls", "tls.crt", "tls.key"⟩) ∧
      (Session.run (World.collaborators fun _ => {}) (exportHook {} (exporting ""))
        { world := chainWorld none pem }).1 = r ∧
      (Session.run (World.collaborators fun _ => {}) (exportHook {} exportingEmpty)
        { world := chainWorld (some "") pem }).1 = r ∧
      Session.Twins emptiness
        (Session.run (World.collaborators fun _ => {}) (exportHook {} (exporting ""))
          { world := chainWorld none pem }).2
        (Session.run (World.collaborators fun _ => {}) (exportHook {} exportingEmpty)
          { world := chainWorld (some "") pem }).2 := by
  obtain ⟨pem, hpem⟩ := exists_decryptKey_emptyKey (Bytes.ofText "pw")
  have hmatches : (exporting "").Matches exportingEmpty := rfl
  have hstart : Session.Twins emptiness ({ world := chainWorld none pem } : Session World)
      ({ world := chainWorld (some "") pem } : Session World) := ⟨rfl, .nil, rfl, rfl, rfl⟩
  have hworlds : (chainWorld none pem).SameUpToChain (chainWorld (some "") pem) :=
    ⟨rfl, rfl, rfl, rfl⟩
  have hop := Operation.Matches.exporting {} hmatches
  have hfirst := exportHook_undisturbed (s := { world := chainWorld none pem })
    (World.exportStore _) World.undisturbed rfl (exporting_chain_delivers none hpem)
  obtain ⟨hend, htwins⟩ := Operation.hook_emptiness hop hstart
    (Session.meets_of_behaveAlike World.behaveAlike hop.mirrors hstart hworlds)
  exact ⟨pem, _, rfl, hfirst, (Session.EndLike.eq hend).trans hfirst, htwins⟩

end Certificate

end CertSync
