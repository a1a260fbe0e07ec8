import CertSync.Proofs.Export.Delivery
import CertSync.Proofs.Session.Memory
import CertSync.Proofs.Session.Prompt

/-!
# A run of the export hook

What the secret store and the certificate service have to keep to, and what a run of the hook does
with them: one that succeeds has made the delivery that the secrets led to, and one that does not
has changed no entry but those two.
-/

namespace CertSync

variable {σ : Type}

/-- A store of single entries, and a service whose answer depends on the passphrase alone: in a
state `w` of theirs the entries are `secrets w` and the answers `answer w`. A write that fails may
have had its effect all the same. -/
structure ExportStore (secrets : σ → SecretTable) (answer : σ → Bytes → ExportAnswer)
    (world : Collaborators σ) : Prop where
  resolves {ns : String} {ref : SecretRef} {w : σ} {value : String}
    (h : (world (.secret (.resolve ns ref)) w).1.ending = .returns value) :
    (secrets w)[ref.entry ns]? = some value
  resolve_secrets (ns : String) (ref : SecretRef) (w : σ) :
    secrets (world (.secret (.resolve ns ref)) w).2 = secrets w
  resolve_answer (ns : String) (ref : SecretRef) (w : σ) :
    answer (world (.secret (.resolve ns ref)) w).2 = answer w
  exports {arn : String} {passphrase : Bytes} {w : σ} {a : ExportAnswer}
    (h : (world (.service (.exportCertificate arn passphrase)) w).1.ending = .returns a) :
    answer w passphrase = a
  export_secrets (arn : String) (passphrase : Bytes) (w : σ) :
    secrets (world (.service (.exportCertificate arn passphrase)) w).2 = secrets w
  export_answer (arn : String) (passphrase : Bytes) (w : σ) :
    answer (world (.service (.exportCertificate arn passphrase)) w).2 = answer w
  writes (ns name key value : String) (w : σ) :
    (world (.secret (.write ns name key value)) w).1.Leaves (secrets w)
      ((secrets w).insert ⟨ns, name, key⟩ value)
      (secrets (world (.secret (.write ns name key value)) w).2)
  write_answer (ns name key value : String) (w : σ) :
    answer (world (.secret (.write ns name key value)) w).2 = answer w

/-- Calls return what there is to return, and nothing cancels the run meanwhile. -/
structure Undisturbed (secrets : σ → SecretTable) (answer : σ → Bytes → ExportAnswer)
    (world : Collaborators σ) : Prop where
  resolves {ns : String} {ref : SecretRef} {w : σ} {value : String}
    (h : (secrets w)[ref.entry ns]? = some value) :
    (world (.secret (.resolve ns ref)) w).1 = ⟨.returns value, false⟩
  exports (arn : String) (passphrase : Bytes) (w : σ) :
    (world (.service (.exportCertificate arn passphrase)) w).1 =
      ⟨.returns (answer w passphrase), false⟩
  writes (ns name key value : String) (w : σ) :
    (world (.secret (.write ns name key value)) w).1 = ⟨.returns (), false⟩

/-! ## The store in memory -/

namespace World

def answers (w : World) (_ : Bytes) : ExportAnswer := w.exportAnswer

theorem answerSecret_resolve (w : World) (ns : String) (ref : SecretRef) :
    w.answerSecret (.resolve ns ref) =
      (match w.secrets[ref.entry ns]? with
        | some value => .ok value
        | none => .error ⟨s!"secret {ref.nsOr ns}/{ref.name} not found", []⟩, w) := by
  rw [answerSecret, SecretRef.entry]
  cases w.secrets[(⟨ref.nsOr ns, ref.name, ref.key⟩ : EntryId)]? <;> rfl

theorem exportStore (disturb : Call → Disturbance) :
    ExportStore secrets answers (collaborators disturb) where
  resolves {ns ref w value} h := by
    have hanswer := answer_of_returns h
    simp only [answer, answerSecret_resolve] at hanswer
    cases hv : w.secrets[ref.entry ns]? with
    | none => simp [hv] at hanswer
    | some found => rw [hv] at hanswer; cases hanswer; rfl
  resolve_secrets ns ref w := by
    rcases leaves disturb (.secret (.resolve ns ref)) w secrets with h | h
    · simpa [answer, answerSecret_resolve] using h
    · exact h.1
  resolve_answer ns ref w := by
    rcases leaves disturb (.secret (.resolve ns ref)) w answers with h | h
    · simpa [answer, answerSecret_resolve] using h
    · exact h.1
  exports h := Except.ok.inj (answer_of_returns h)
  export_secrets arn passphrase w :=
    (leaves disturb (.service (.exportCertificate arn passphrase)) w secrets).elim id (·.1)
  export_answer arn passphrase w :=
    (leaves disturb (.service (.exportCertificate arn passphrase)) w answers).elim id (·.1)
  writes ns name key value w := leaves disturb (.secret (.write ns name key value)) w secrets
  write_answer ns name key value w :=
    (leaves disturb (.secret (.write ns name key value)) w answers).elim id (·.1)

theorem undisturbed : Undisturbed secrets answers (collaborators fun _ => {}) where
  resolves {ns ref w value} h := by
    rw [collaborators_of_answer rfl rfl, answer, answerSecret_resolve, h]
  exports _ _ _ := rfl
  writes _ _ _ _ _ := rfl

end World

/-! ## The parts of the hook -/

namespace Certificate

variable {secrets : σ → SecretTable} {answer : σ → Bytes → ExportAnswer}
  {world : Collaborators σ} {config : Config} {c : Certificate} {s t : Session σ}

def exportSpan (c : Certificate) (arn : String) (dest : ExportDestination) : LogEvent :=
  .span "certificate.export" [
    ("resource.name", .text c.nameOrUnknown),
    ("resource.namespace", .text c.nsOrDefault),
    ("certificate.arn", .text arn),
    ("secret.namespace", .text dest.ns),
    ("secret.name", .text dest.name)]

def exportMaterial (c : Certificate) (arn : String) (ref : SecretRef) (dest : ExportDestination) :
    Hook ExportOutcome := do
  let passphrase ← c.exportPassphrase ref
  let answer : ExportAnswer ←
    c.exportSite.service (.exportCertificate arn (Bytes.ofText passphrase))
  match answer with
  | .notFound =>
    Hook.warn s!"Certificate {arn} of {c.resourceKey} was not found in ACM, skipping export"
    return .remoteNotFound
  | .exported material =>
    c.deliver passphrase dest material
    Hook.info s!"Exported certificate {arn} to secret {dest.ns}/{dest.name}"
    return .exported dest

theorem exportHook_of_fields {target : ExportTarget} {ref : SecretRef} {arn : String}
    (htarget : c.spec.exportTo = some target) (href : c.spec.exportPassphrase = some ref)
    (hname : Text.allBlank target.name = false) (harn : c.arn? = some arn) :
    exportHook config c = (do
      Hook.log (c.exportSpan arn (c.exportDestination config target))
      c.exportMaterial arn ref (c.exportDestination config target)) := by
  unfold exportHook exportMaterial
  rw [htarget, href]
  simp only [hname, harn, Bool.false_eq_true, if_false]
  rfl

theorem exportHook_of_unset (h : c.spec.exportTo = none ∨ c.spec.exportPassphrase = none) :
    exportHook config c = pure .skipped := by
  unfold exportHook
  rcases h with h | h
  · rw [h]
  · rw [h]
    cases c.spec.exportTo <;> rfl

theorem exportHook_of_blank {target : ExportTarget} {ref : SecretRef}
    (htarget : c.spec.exportTo = some target) (href : c.spec.exportPassphrase = some ref)
    (hname : Text.allBlank target.name = true) :
    exportHook config c = throw (c.exportSite.error (.terminal .missingExportDestination)) := by
  unfold exportHook
  rw [htarget, href]
  simp only [hname, if_true]
  rfl

theorem exportHook_of_missing_arn {target : ExportTarget} {ref : SecretRef}
    (htarget : c.spec.exportTo = some target) (href : c.spec.exportPassphrase = some ref)
    (hname : Text.allBlank target.name = false) (harn : c.arn? = none) :
    exportHook config c = throw (.missingArn "export" c.resourceKey "export") := by
  unfold exportHook
  rw [htarget, href]
  simp only [hname, harn, Bool.false_eq_true, if_false]

theorem exportHook_cases (config : Config) (c : Certificate) :
    exportHook config c = pure .skipped ∨
      (∃ cause, exportHook config c = throw (c.exportSite.error cause)) ∨
      ∃ target ref arn, c.spec.exportTo = some target ∧ c.spec.exportPassphrase = some ref ∧
        Text.allBlank target.name = false ∧ c.arn? = some arn ∧ exportHook config c = (do
          Hook.log (c.exportSpan arn (c.exportDestination config target))
          c.exportMaterial arn ref (c.exportDestination config target)) := by
  cases htarget : c.spec.exportTo with
  | none => exact .inl (exportHook_of_unset (.inl htarget))
  | some target =>
    cases href : c.spec.exportPassphrase with
    | none => exact .inl (exportHook_of_unset (.inr href))
    | some ref =>
      right
      cases hname : Text.allBlank target.name with
      | true => exact .inl ⟨_, exportHook_of_blank htarget href hname⟩
      | false =>
        cases harn : c.arn? with
        | none => exact .inl ⟨_, exportHook_of_missing_arn htarget href hname harn⟩
        | some arn =>
          exact .inr ⟨target, ref, arn, rfl, rfl, hname, rfl,
            exportHook_of_fields htarget href hname harn⟩

/-! ## A run that succeeds -/

/-- At some point the call is answered. -/
def Answered (world : Collaborators σ) (call : Call) : Prop :=
  ∃ w a, (world call w).1.ending = .returns a

theorem exportPassphrase_ok (hworld : ExportStore secrets answer world) {ref : SecretRef}
    {passphrase : String}
    (hok : Session.run world (c.exportPassphrase ref) s = (.ok passphrase, t)) :
    (secrets s.world)[ref.entry c.nsOrDefault]? = some passphrase ∧ passphrase.isEmpty = false ∧
      t = s.started world (.secret (.resolve c.nsOrDefault ref)) ∧
      Answered world (.secret (.resolve c.nsOrDefault ref)) := by
  unfold exportPassphrase at hok
  obtain ⟨value, s1, hresolve, hok⟩ := Session.bind_ok hok
  obtain ⟨-, hending, rfl⟩ := Session.resolve_ok hresolve
  cases hempty : value.isEmpty with
  | true =>
    simp only [hempty, if_true] at hok
    cases hok
  | false =>
    simp only [hempty, Bool.false_eq_true, if_false] at hok
    obtain ⟨hvalue, rfl⟩ := Prod.mk.inj hok
    cases hvalue
    exact ⟨hworld.resolves hending, hempty, rfl, _, _, hending⟩

theorem deliver_ok (hworld : ExportStore secrets answer world) {passphrase : String}
    {dest : ExportDestination} {material : ExportedMaterial} {u : Unit}
    (hok : Session.run world (c.deliver passphrase dest material) s = (.ok u, t)) :
    ∃ privateKey, decryptKey (Bytes.ofText material.privateKey) (Bytes.ofText passphrase)
        (c.spec.keyAlgorithm.map KeyAlgorithm.family) = .ok privateKey ∧
      secrets t.world = ((secrets s.world).insert dest.certificateEntry
        (material.certificate ++ material.chain.getD "")).insert dest.privateKeyEntry privateKey ∧
      answer t.world = answer s.world ∧
      t.calls = s.calls ++ [
        dest.certificateCall material, dest.privateKeyCall privateKey] ∧
      Answered world (dest.certificateCall material) ∧
      Answered world (dest.privateKeyCall privateKey) := by
  unfold deliver at hok
  rw [material.bundle_eq] at hok
  obtain ⟨_, s1, hcert, hok⟩ := Session.bind_ok hok
  obtain ⟨-, hending, rfl⟩ := Session.write_ok hcert
  have hsecrets := (hworld.writes _ _ _ _ _).of_returns hending
  rw [Session.run_bind_ok (Session.run_message _ _).1] at hok
  cases hkey : decryptKey (Bytes.ofText material.privateKey) (Bytes.ofText passphrase)
    (c.spec.keyAlgorithm.map KeyAlgorithm.family) with
  | error error =>
    simp only [hkey] at hok
    cases hok
  | ok privateKey =>
    simp only [hkey] at hok
    obtain ⟨-, hending', rfl⟩ := Session.write_ok hok
    refine ⟨privateKey, rfl, ?_, ?_, ?_, ⟨_, _, hending⟩, ⟨_, _, hending'⟩⟩
    · refine ((hworld.writes _ _ _ _ _).of_returns hending').trans ?_
      exact congrArg (fun table : SecretTable => table.insert dest.privateKeyEntry privateKey)
        hsecrets
    · exact (hworld.write_answer _ _ _ _ _).trans (hworld.write_answer _ _ _ _ _)
    · simp [Session.started, ExportDestination.certificateCall, ExportDestination.privateKeyCall]

def deliveryCalls (c : Certificate) (d : Delivery) : List Call := [
  .secret (.resolve c.nsOrDefault d.reference),
  .service (.exportCertificate d.arn (Bytes.ofText d.passphrase)),
  .secret (.write d.destination.ns d.destination.name d.destination.certificateKey
    d.certificateText),
  .secret (.write d.destination.ns d.destination.name d.destination.privateKeyKey d.privateKey)]

theorem write_privateKey_mem (c : Certificate) (d : Delivery) :
    .secret (.write d.destination.ns d.destination.name d.destination.privateKeyKey d.privateKey) ∈
      c.deliveryCalls d := by
  simp [deliveryCalls]

/-- A run that says it exported has made the delivery, with these calls, and all were answered. -/
theorem exportHook_exported (hworld : ExportStore secrets answer world) {dest : ExportDestination}
    (hok : Session.run world (exportHook config c) s = (.ok (.exported dest), t)) :
    ∃ d, c.Delivers config (answer s.world) (secrets s.world) d ∧ d.destination = dest ∧
      secrets t.world = d.applyTo (secrets s.world) ∧ answer t.world = answer s.world ∧
      t.calls = s.calls ++ c.deliveryCalls d ∧
      ∀ call ∈ c.deliveryCalls d, Answered world call := by
  rcases exportHook_cases config c with h | ⟨e, h⟩ |
    ⟨target, ref, arn, htarget, href, hname, harn, h⟩ <;> rw [h] at hok
  · cases hok
  · cases hok
  rw [Session.run_bind_ok (Session.run_log _ _)] at hok
  unfold exportMaterial at hok
  obtain ⟨passphrase, s1, hpassphrase, hok⟩ := Session.bind_ok hok
  obtain ⟨hread, hempty, rfl, hresolved⟩ := exportPassphrase_ok hworld hpassphrase
  obtain ⟨response, s2, hexport, hok⟩ := Session.bind_ok hok
  obtain ⟨-, hending, rfl⟩ := Session.service_ok hexport
  have hanswer := hworld.exports hending
  have hkept : secrets _ = secrets s.world :=
    (hworld.export_secrets arn (Bytes.ofText passphrase) _).trans
      (hworld.resolve_secrets c.nsOrDefault ref s.world)
  have hsame : answer _ = answer s.world :=
    (hworld.export_answer arn (Bytes.ofText passphrase) _).trans
      (hworld.resolve_answer c.nsOrDefault ref s.world)
  cases response with
  | notFound =>
    rw [Session.run_bind_ok (Session.run_message _ _).2.2] at hok
    cases hok
  | exported material =>
    obtain ⟨_, s3, hdeliver, hok⟩ := Session.bind_ok hok
    obtain ⟨privateKey, hkey, hsecrets, hanswers, hcalls, hcert, hwritten⟩ :=
      deliver_ok hworld hdeliver
    rw [Session.run_bind_ok (Session.run_message _ _).2.1] at hok
    obtain ⟨hdest, rfl⟩ := Prod.mk.inj hok
    cases hdest
    let d : Delivery := ⟨c.exportDestination config target, arn, ref, ref.entry c.nsOrDefault,
      passphrase, material, privateKey⟩
    have hdest := c.exportDestination_completes config target
    refine ⟨d, ⟨⟨target, htarget, hname, hdest⟩, href, harn, rfl, hread, hempty, ?_, hkey⟩, rfl, ?_,
      ?_, ?_, ?_⟩
    · rw [← hanswer]
      exact congrFun (hworld.resolve_answer _ _ _).symm _
    · refine hsecrets.trans ?_
      exact congrArg d.applyTo hkept
    · exact hanswers.trans hsame
    · rw [hcalls]
      simp only [Session.noted, Session.started, List.append_assoc]
      rfl
    · intro call hcall
      simp only [deliveryCalls, List.mem_cons, List.not_mem_nil, or_false] at hcall
      rcases hcall with rfl | rfl | rfl | rfl
      · exact hresolved
      · exact ⟨_, _, hending⟩
      · exact hcert
      · exact hwritten

/-! ## A run that is not disturbed -/

theorem exportPassphrase_undisturbed (hcalm : Undisturbed secrets answer world) {ref : SecretRef}
    {passphrase : String} (hs : s.cancelled = false)
    (hread : (secrets s.world)[ref.entry c.nsOrDefault]? = some passphrase)
    (hempty : passphrase.isEmpty = false) :
    Session.run world (c.exportPassphrase ref) s =
      (.ok passphrase, s.started world (.secret (.resolve c.nsOrDefault ref))) := by
  unfold exportPassphrase
  rw [Session.run_bind_ok (Session.resolve_of_returns hs (by rw [hcalm.resolves hread]))]
  simp only [hempty, Bool.false_eq_true, if_false]
  rfl

theorem deliver_undisturbed (hcalm : Undisturbed secrets answer world)
    {passphrase privateKey : String} {dest : ExportDestination} {material : ExportedMaterial}
    (hs : s.cancelled = false)
    (hkey : decryptKey (Bytes.ofText material.privateKey) (Bytes.ofText passphrase)
      (c.spec.keyAlgorithm.map KeyAlgorithm.family) = .ok privateKey) :
    ∃ t, Session.run world (c.deliver passphrase dest material) s = (.ok (), t) := by
  unfold deliver
  have hwrites := hcalm.writes dest.ns dest.name
  rw [Session.run_bind_ok (Session.write_of_returns hs (by rw [hwrites]))]
  rw [Session.run_bind_ok (Session.run_message _ _).1]
  simp only [hkey]
  refine ⟨_, Session.write_of_returns ?_ (by rw [hwrites])⟩
  exact congrArg Reaction.cancels (hwrites _ _ _)

theorem exportMaterial_undisturbed (hworld : ExportStore secrets answer world)
    (hcalm : Undisturbed secrets answer world) (hs : s.cancelled = false) {d : Delivery}
    (hd : c.Delivers config (answer s.world) (secrets s.world) d) :
    (Session.run world (c.exportMaterial d.arn d.reference d.destination) s).1 =
      .ok (.exported d.destination) := by
  let s1 := s.started world (.secret (.resolve c.nsOrDefault d.reference))
  have hread := hd.passphraseEntry ▸ hd.passphrase
  have hresolve : Session.run world (c.exportPassphrase d.reference) s = (.ok d.passphrase, s1) :=
    exportPassphrase_undisturbed hcalm hs hread hd.notEmpty
  have hs1 : s1.cancelled = false := congrArg Reaction.cancels (hcalm.resolves hread)
  have hanswer : answer s1.world (Bytes.ofText d.passphrase) = .exported d.material :=
    (congrFun (hworld.resolve_answer _ _ _) _).trans hd.material
  let call : ServiceCall := .exportCertificate d.arn (Bytes.ofText d.passphrase)
  let s2 := (s1.started world (.service call)).noted ⟨call.type, call.name, none⟩
  have hexport : Session.run world (c.exportSite.service call) s1 =
      (.ok (.exported d.material), s2) :=
    Session.service_of_returns hs1 (by rw [hcalm.exports, hanswer])
  have hs2 : s2.cancelled = false := congrArg Reaction.cancels (hcalm.exports _ _ _)
  obtain ⟨t, hdeliver⟩ : ∃ t, Session.run world (c.deliver d.passphrase d.destination d.material)
      s2 = (.ok (), t) := deliver_undisturbed hcalm hs2 hd.privateKey
  refine (congrArg Prod.fst (Session.run_bind_ok hresolve _)).trans ?_
  refine (congrArg Prod.fst (Session.run_bind_ok hexport _)).trans ?_
  exact (congrArg Prod.fst (Session.run_bind_ok hdeliver _)).trans rfl

theorem exportHook_undisturbed (hworld : ExportStore secrets answer world)
    (hcalm : Undisturbed secrets answer world) (hs : s.cancelled = false) {d : Delivery}
    (hd : c.Delivers config (answer s.world) (secrets s.world) d) :
    (Session.run world (exportHook config c) s).1 = .ok (.exported d.destination) := by
  obtain ⟨target, htarget, hname, hdest⟩ := hd.destination
  rw [exportHook_of_fields htarget hd.reference hname hd.arn, ← hdest.eq,
    Session.run_bind_ok (Session.run_log _ _)]
  let logged : Session σ := { s with log := s.log ++ [c.exportSpan d.arn d.destination] }
  exact exportMaterial_undisturbed (s := logged) hworld hcalm hs hd

/-! ## However a run ends -/

/-- Nothing was changed but the two entries that an export writes. -/
def Untouched (secrets : σ → SecretTable) (answer : σ → Bytes → ExportAnswer)
    (dest : ExportDestination) (before after : σ) : Prop :=
  answer after = answer before ∧
    ∀ entry : EntryId, entry ≠ dest.certificateEntry → entry ≠ dest.privateKeyEntry →
      (secrets after)[entry]? = (secrets before)[entry]?

instance {dest : ExportDestination} : IsPreorder σ (Untouched secrets answer dest) where
  refl _ := ⟨rfl, fun _ _ _ => rfl⟩
  trans a b c hab hbc := by
    refine ⟨hbc.1.trans hab.1, ?_⟩
    intro entry hcert hkey
    rw [hbc.2 entry hcert hkey, hab.2 entry hcert hkey]

theorem write_untouched (hworld : ExportStore secrets answer world) {dest : ExportDestination}
    {key : String} (value : String) (hkey : key = dest.certificateKey ∨ key = dest.privateKeyKey) :
    Within world (Untouched secrets answer dest)
      (c.exportSite.write dest.ns dest.name key value) := by
  apply Within.write
  intro w
  refine ⟨hworld.write_answer _ _ _ _ _, ?_⟩
  intro entry hcert hpriv
  rcases hworld.writes dest.ns dest.name key value w with h | ⟨h, _⟩ <;> rw [h]
  rw [SecretTable.getElem?_insert, if_neg]
  rintro rfl
  rcases hkey with rfl | rfl
  · exact hcert rfl
  · exact hpriv rfl

theorem exportMaterial_untouched (hworld : ExportStore secrets answer world) (arn : String)
    (ref : SecretRef) (dest : ExportDestination) :
    Within world (Untouched secrets answer dest) (c.exportMaterial arn ref dest) := by
  unfold exportMaterial
  refine .bind ?_ fun passphrase => .bind ?_ fun response => ?_
  · unfold exportPassphrase
    refine .bind (.resolve fun w => ?_) fun value => ?_
    · exact ⟨hworld.resolve_answer _ _ _, fun _ _ _ => by rw [hworld.resolve_secrets]⟩
    · cases value.isEmpty with
      | true => exact .bind (.throw _) fun _ => .pure _
      | false => exact .pure _
  · exact .service fun w =>
      ⟨hworld.export_answer _ _ _, fun _ _ _ => by rw [hworld.export_secrets]⟩
  · cases response with
    | notFound => exact .bind (.log _) fun _ => .pure _
    | exported material =>
      refine .bind ?_ fun _ => .bind (.log _) fun _ => .pure _
      unfold deliver
      refine .bind (write_untouched hworld _ (.inl rfl)) fun _ => .bind (.log _) fun _ => ?_
      cases hkey : decryptKey (Bytes.ofText material.privateKey) (Bytes.ofText passphrase)
        (c.spec.keyAlgorithm.map KeyAlgorithm.family) with
      | error error =>
        simp only [hkey]
        exact .throw _
      | ok privateKey =>
        simp only [hkey]
        exact write_untouched hworld _ (.inr rfl)

theorem exportHook_untouched (hworld : ExportStore secrets answer world) {target : ExportTarget}
    (htarget : c.spec.exportTo = some target) :
    Within world (Untouched secrets answer (c.exportDestination config target))
      (exportHook config c) := by
  rcases exportHook_cases config c with h | ⟨e, h⟩ | ⟨target', ref, arn, htarget', -, -, -, h⟩ <;>
    rw [h]
  · exact .pure _
  · exact .throw _
  · rw [htarget] at htarget'
    cases htarget'
    exact .bind (.log _) fun _ => exportMaterial_untouched hworld _ _ _

theorem delivers_iff_of_untouched {before after : σ} {d : Delivery}
    (h : Untouched secrets answer d.destination before after)
    (hcert : d.passphraseEntry ≠ d.destination.certificateEntry)
    (hkey : d.passphraseEntry ≠ d.destination.privateKeyEntry) :
    c.Delivers config (answer before) (secrets before) d ↔
      c.Delivers config (answer after) (secrets after) d := by
  have hread := h.2 d.passphraseEntry hcert hkey
  rw [h.1]
  exact ⟨fun hd => hd.congr hread, fun hd => hd.congr hread.symm⟩

/-! ## An export -/

/-- A resource that exports its certificate to the entry `key`, or to the configured one. -/
def exporting (key : String) : Certificate where
  metadata := { name := some "web" }
  spec := {
    domainName := some "example.com"
    exportTo := some ⟨"", "tls", key⟩
    exportPassphrase := some ⟨"ps", none, "passphrase"⟩ }
  status := some { certificateArn := some "arn:web" }

/-- A world where its passphrase is known, and its private key is under it. -/
def exportWorld (pem : String) : World where
  secrets := (∅ : SecretTable).insert ⟨"default", "ps", "passphrase"⟩ "pw"
  exportAnswer := .exported { certificate := "CERT", chain := some "CHAIN", privateKey := pem }

def exportDelivery (key pem privateKey : String) : Delivery where
  destination := (exporting key).exportDestination {} ⟨"", "tls", key⟩
  arn := "arn:web"
  reference := ⟨"ps", none, "passphrase"⟩
  passphraseEntry := ⟨"default", "ps", "passphrase"⟩
  passphrase := "pw"
  material := { certificate := "CERT", chain := some "CHAIN", privateKey := pem }
  privateKey

theorem exporting_delivers (key : String) {pem privateKey : String}
    (h : decryptKey (Bytes.ofText pem) (Bytes.ofText "pw") none = .ok privateKey) :
    (exporting key).Delivers {} (exportWorld pem).answers (exportWorld pem).secrets
      (exportDelivery key pem privateKey) where
  destination := by
    have hname : Text.allBlank "tls" = false := by decide +kernel
    exact ⟨⟨"", "tls", key⟩, rfl, hname, exportDestination_completes _ _ _⟩
  reference := rfl
  arn := rfl
  passphraseEntry := rfl
  passphrase := by
    refine (SecretTable.getElem?_insert _ _ _ _).trans ?_
    exact if_pos rfl
  notEmpty := by
    have hempty : ("pw" : String).isEmpty = false := by decide +kernel
    exact hempty
  material := rfl
  privateKey := h

theorem exportWorld_exported {key pem privateKey : String}
    (hd : (exporting key).Delivers {} (exportWorld pem).answers (exportWorld pem).secrets
      (exportDelivery key pem privateKey)) :
    Session.run (World.collaborators fun _ => {}) (exportHook {} (exporting key))
        { world := exportWorld pem } =
      (.ok (.exported (exportDelivery key pem privateKey).destination),
        (Session.run (World.collaborators fun _ => {}) (exportHook {} (exporting key))
          { world := exportWorld pem }).2) :=
  Prod.ext (exportHook_undisturbed (World.exportStore _) World.undisturbed rfl hd) rfl

end Certificate

end CertSync
