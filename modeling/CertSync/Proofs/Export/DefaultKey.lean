import CertSync.Config.Environment
import CertSync.Proofs.Export.Course
import CertSync.Proofs.Resource.Shape

/-!
# Exports to a key that no one names

Where a document leaves the key of its export target out, its reader puts in a name of its own;
where the key is empty, the configuration names one. So an empty key is not the same as none, unless
the configuration has the name that the reader puts in.
-/

namespace CertSync

/-! ## The key that is read -/

theorem ExportTarget.ofJson?_key {j : Json} {target : ExportTarget}
    (h : ofJson? j = some target) :
    ∃ r, j.record? names = some r ∧
      Json.defaulted defaultKey Json.text? (r "key") = some target.key := by
  simp only [ofJson?, Option.bind_eq_bind, Option.bind_eq_some_iff] at h
  obtain ⟨r, hr, _, -, _, -, key, hkey, hbuild⟩ := h
  cases hbuild
  exact ⟨r, hr, hkey⟩

theorem CertificateSpec.ofJson?_exportTo {j : Json} {spec : CertificateSpec}
    (h : ofJson? j = some spec) :
    ∃ r, j.record? names = some r ∧
      Json.optional ExportTarget.ofJson? (r "exportTo") = some spec.exportTo := by
  obtain ⟨r, hr, h⟩ := Option.bind_eq_some_iff.mp h
  refine ⟨r, hr, ?_⟩
  -- Nine fields stand before the target, and two behind it.
  iterate 9 obtain ⟨_, -, h⟩ := Option.bind_eq_some_iff.mp h
  obtain ⟨_, hexport, h⟩ := Option.bind_eq_some_iff.mp h
  iterate 2 obtain ⟨_, -, h⟩ := Option.bind_eq_some_iff.mp h
  cases h
  exact hexport

namespace Certificate

/-- What a document gives for the fields of its export target. -/
def targetRecord? (j : Json) : Option Json.Record := do
  let certificate ← j.record? names
  let spec ← (← certificate "spec").record? CertificateSpec.names
  (← spec "exportTo").record? ExportTarget.names

theorem key_of_targetRecord? {j : Json} {c : Certificate} {r : Json.Record}
    (hread : ofJson? j = some c) (hrecord : targetRecord? j = some r) :
    ∃ target, c.spec.exportTo = some target ∧
      Json.defaulted ExportTarget.defaultKey Json.text? (r "key") = some target.key := by
  obtain ⟨outer, houter, -, hspec, -⟩ := exists_record_of_ofJson? hread
  simp only [targetRecord?, houter, Option.bind_eq_bind, Option.bind_some,
    Option.bind_eq_some_iff] at hrecord
  obtain ⟨spec, hspecField, inner, hinner, target, htargetField, hr⟩ := hrecord
  rw [hspecField] at hspec
  obtain ⟨_, hinner', htarget⟩ := CertificateSpec.ofJson?_exportTo hspec
  cases hinner.symm.trans hinner'
  rw [htargetField] at htarget
  have hnull : target.isNull = false := by
    cases target with
    | null => cases hr
    | _ => rfl
  rw [Json.optional_some hnull, Option.map_eq_some_iff] at htarget
  obtain ⟨found, hfound, hsome⟩ := htarget
  obtain ⟨_, hr', hkey⟩ := ExportTarget.ofJson?_key hfound
  cases hr.symm.trans hr'
  exact ⟨found, hsome.symm, hkey⟩

/-! ## The key that is written to -/

variable {σ : Type} {world : Collaborators σ} {config : Config} {c : Certificate}
  {s t : Session σ} {dest : ExportDestination}

theorem calls_prefix_of_run {α : Type} {hook : Hook α} {result : Except HookError α}
    (hrun : Session.run world hook s = (result, t)) : s.calls <+: t.calls := by
  have hprefix := Session.calls_prefix world hook s
  rwa [hrun] at hprefix

theorem deliver_writes {passphrase : String} {material : ExportedMaterial} {u : Unit}
    (hok : Session.run world (c.deliver passphrase dest material) s = (.ok u, t)) :
    s.calls ++ [dest.certificateCall material] <+: t.calls ∧
      Answered world (dest.certificateCall material) := by
  unfold deliver at hok
  rw [material.bundle_eq] at hok
  obtain ⟨_, s1, hwrite, hok⟩ := Session.bind_ok hok
  obtain ⟨-, hending, rfl⟩ := Session.write_ok hwrite
  exact ⟨calls_prefix_of_run hok, s.world, (), hending⟩

theorem exportHook_writes
    (hok : Session.run world (exportHook config c) s = (.ok (.exported dest), t)) :
    ∃ target arn passphrase material made, c.spec.exportTo = some target ∧
      dest = c.exportDestination config target ∧
      (∃ w, (world (exportCall arn passphrase) w).1.ending =
        .returns (ExportAnswer.exported material)) ∧
      t.calls = s.calls ++ made ∧ dest.certificateCall material ∈ made ∧
      Answered world (dest.certificateCall material) := by
  rcases exportHook_cases config c with
    h | ⟨e, h⟩ | ⟨target, ref, arn, htarget, -, -, -, h⟩ <;> rw [h] at hok
  · cases hok
  · cases hok
  rw [Session.run_bind_ok (Session.run_log _ _)] at hok
  unfold exportMaterial at hok
  obtain ⟨passphrase, s1, hpassphrase, hok⟩ := Session.bind_ok hok
  obtain ⟨answer, s2, hexport, hok⟩ := Session.bind_ok hok
  obtain ⟨-, hending, -⟩ := Session.service_ok hexport
  cases answer with
  | notFound =>
    rw [Session.run_bind_ok (Session.run_message _ _).2.2] at hok
    cases hok
  | exported material =>
    obtain ⟨_, s3, hdeliver, hok⟩ := Session.bind_ok hok
    obtain ⟨hwritten, hanswered⟩ := deliver_writes hdeliver
    rw [Session.run_bind_ok (Session.run_message _ _).2.1] at hok
    obtain ⟨hdest, rfl⟩ := Prod.mk.inj hok
    cases hdest
    obtain ⟨after, hafter⟩ := hwritten
    obtain ⟨before, hbefore⟩ :=
      (calls_prefix_of_run hpassphrase).trans (calls_prefix_of_run hexport)
    let call := (c.exportDestination config target).certificateCall material
    refine ⟨target, arn, passphrase, material, before ++ call :: after, htarget, rfl, ⟨_, hending⟩,
      hafter.symm.trans ?_, List.mem_append_right _ List.mem_cons_self, hanswered⟩
    rw [← hbefore, List.append_assoc, List.append_assoc]
    rfl

/-! ## Keys that come to the same -/

/-- The certificate with another key for its export target, if it has one. -/
def withExportKey (key : String) (c : Certificate) : Certificate :=
  let exportTo := c.spec.exportTo.map fun target => { target with key }
  { c with spec := { c.spec with exportTo } }

/-- Everything is there that an export of the certificate needs. -/
def Exportable (c : Certificate) : Prop :=
  ∃ target ref arn, c.spec.exportTo = some target ∧ c.spec.exportPassphrase = some ref ∧
    Text.allBlank target.name = false ∧ c.arn? = some arn

theorem exportTo_withExportKey {target : ExportTarget} (key : String)
    (h : c.spec.exportTo = some target) :
    (c.withExportKey key).spec.exportTo = some { target with key } := by
  rw [withExportKey, h]
  rfl

/-- The name that a key stands for. -/
def keyName (config : Config) (key : String) : String :=
  if key = "" then config.exportCertificateKey else key

theorem exportDestination_key (target : ExportTarget) (key : String) :
    c.exportDestination config { target with key } =
      { c.exportDestination config target with certificateKey := keyName config key } := by
  simp only [exportDestination, keyName, nonEmpty, Option.filter_some]
  by_cases hkey : key = "" <;> simp [hkey]

theorem exportHook_withExportKey {target : ExportTarget} {ref : SecretRef} {arn : String}
    (htarget : c.spec.exportTo = some target) (href : c.spec.exportPassphrase = some ref)
    (hname : Text.allBlank target.name = false) (harn : c.arn? = some arn) (key : String) :
    exportHook config (c.withExportKey key) = (do
      let dest := { c.exportDestination config target with certificateKey := keyName config key }
      Hook.log (c.exportSpan arn dest)
      c.exportMaterial arn ref dest) := by
  rw [exportHook_of_fields (exportTo_withExportKey key htarget) href hname harn,
    ← exportDestination_key]
  rfl

theorem exportHook_withExportKey_of_not_exportable (h : ¬c.Exportable) (key : String) :
    exportHook config (c.withExportKey key) = exportHook config c := by
  cases htarget : c.spec.exportTo with
  | none =>
    have hnone : (c.withExportKey key).spec.exportTo = none := by rw [withExportKey, htarget]; rfl
    rw [exportHook_of_unset (.inl hnone), exportHook_of_unset (.inl htarget)]
  | some target =>
    have hsome := exportTo_withExportKey key htarget
    cases href : c.spec.exportPassphrase with
    | none =>
      rw [exportHook_of_unset (c := c.withExportKey key) (.inr href),
        exportHook_of_unset (.inr href)]
    | some ref =>
      cases hname : Text.allBlank target.name with
      | true =>
        rw [exportHook_of_blank hsome href hname, exportHook_of_blank htarget href hname]
        rfl
      | false =>
        cases harn : c.arn? with
        | none =>
          rw [exportHook_of_missing_arn hsome href hname harn,
            exportHook_of_missing_arn htarget href hname harn]
          rfl
        | some arn => exact absurd ⟨target, ref, arn, htarget, href, hname, harn⟩ h

/-- The passphrase is had, and the material, but nothing can be written. -/
def writeless : Collaborators Unit
  | .secret (.resolve _ _), _ => (⟨.returns "pw", false⟩, ())
  | .secret (.write _ _ _ _), _ => (⟨.fails ⟨"refused", []⟩, false⟩, ())
  | .service (.exportCertificate _ _), _ =>
    (⟨.returns (ExportAnswer.exported ⟨"", none, ""⟩), false⟩, ())
  | .service _, _ => (⟨.fails ⟨"refused", []⟩, false⟩, ())

theorem writeless_steady : writeless.Steady := by
  rintro (call | call) _ <;> cases call <;> exact ⟨rfl, nofun⟩

theorem writeless_calls (config : Config) {target : ExportTarget} {ref : SecretRef} {arn : String}
    (htarget : c.spec.exportTo = some target) (href : c.spec.exportPassphrase = some ref)
    (hname : Text.allBlank target.name = false) (harn : c.arn? = some arn) :
    (Session.run writeless (exportHook config c) { world := () }).2.calls =
      [c.passphraseCall ref, exportCall arn "pw",
        (c.exportDestination config target).certificateCall ⟨"", none, ""⟩] := by
  have ht := Session.run_not_cancelled writeless_steady (exportHook config c)
    (s := { world := () }) rfl
  rcases hrun : Session.run writeless (exportHook config c) { world := () } with ⟨result, t⟩
  rw [hrun] at ht
  obtain ⟨made, hcalls, hcourse⟩ := exportHook_delivers htarget href hname harn hrun ht
  rw [hcalls]
  -- Of all courses only one goes with these answers: the certificate is not written.
  cases hcourse with
  | unresolved hresolve => cases hresolve
  | emptyPassphrase hresolve hempty =>
    cases hresolve
    exact absurd hempty (by decide +kernel)
  | exportFailed _ _ hexport => cases hexport
  | notFound _ _ hexport => cases hexport
  | delivers hresolve _ hexport hdeliver =>
    cases hresolve
    cases hexport
    cases hdeliver with
    | certificateUnwritten => rfl
    | keyRefused hwrite _ => cases hwrite
    | keyUnwritten hwrite _ _ => cases hwrite
    | delivered hwrite _ _ => cases hwrite

/-- Two keys come to the same just if they stand for one name, or nothing can be exported anyway. -/
theorem exportHook_withExportKey_iff (config : Config) (c : Certificate) (key key' : String) :
    (∀ (σ : Type) (world : Collaborators σ) (s : Session σ),
      Session.run world (exportHook config (c.withExportKey key)) s =
        Session.run world (exportHook config (c.withExportKey key')) s) ↔
    keyName config key = keyName config key' ∨ ¬c.Exportable := by
  by_cases hc : c.Exportable
  · obtain ⟨target, ref, arn, htarget, href, hname, harn⟩ := id hc
    rw [or_iff_left (not_not.mpr hc)]
    constructor
    · intro h
      have hcalls := congrArg (fun went => went.2.calls) (h Unit writeless { world := () })
      have hwrite (key : String) := writeless_calls config (exportTo_withExportKey key htarget)
        href hname harn
      simp only [hwrite, exportDestination_key, ExportDestination.certificateCall, List.cons.injEq,
        Call.secret.injEq, SecretCall.write.injEq] at hcalls
      obtain ⟨-, -, ⟨-, -, hkey, -⟩, -⟩ := hcalls
      exact hkey
    · intro h σ world s
      rw [exportHook_withExportKey htarget href hname harn,
        exportHook_withExportKey htarget href hname harn, h]
  · refine iff_of_true (fun σ world s => ?_) (.inr hc)
    rw [exportHook_withExportKey_of_not_exportable hc,
      exportHook_withExportKey_of_not_exportable hc]

/-! ## Documents without a key -/

theorem withExportKey_self {target : ExportTarget} (h : c.spec.exportTo = some target) :
    c.withExportKey target.key = c := by
  have hmap : (c.spec.exportTo.map fun found => { found with key := target.key }) =
      c.spec.exportTo := by
    rw [h]
    rfl
  rw [withExportKey, hmap]

theorem keyName_empty (config : Config) : keyName config "" = config.exportCertificateKey :=
  if_pos rfl

theorem keyName_defaultKey (config : Config) : keyName config ExportTarget.defaultKey = "tls.crt" :=
  if_neg (by decide)

theorem certificateKey_eq {target : ExportTarget} :
    (c.exportDestination config target).certificateKey = keyName config target.key :=
  congrArg ExportDestination.certificateKey (exportDestination_key target target.key)

/-- A document whose export target has an empty key, or none. An export writes to the name that is
configured if the key is empty, and to the name of the reader if there is none; and so the two come
to the same only where these are one name. -/
theorem exportHook_defaultKey (env : Environment) {j : Json} {c : Certificate} {r : Json.Record}
    (hread : ofJson? j = some c) (hrecord : targetRecord? j = some r) :
    let config := Config.ofEnvironment env
    (∀ (σ : Type) (world : Collaborators σ) (s t : Session σ) (dest : ExportDestination),
      Session.run world (exportHook config c) s = (.ok (.exported dest), t) →
      (r "key" = some (.text "") → dest.certificateKey = config.exportCertificateKey) ∧
      (r "key" = none → dest.certificateKey = "tls.crt") ∧
      ∃ arn passphrase material made,
        (∃ w, (world (exportCall arn passphrase) w).1.ending =
          .returns (ExportAnswer.exported material)) ∧
        t.calls = s.calls ++ made ∧ dest.certificateCall material ∈ made ∧
        Answered world (dest.certificateCall material)) ∧
    (r "key" = none → ∀ j' c' r', ofJson? j' = some c' → targetRecord? j' = some r' →
      r' "key" = some (.text "") → c'.withExportKey "" = c.withExportKey "" →
      ((∀ (σ : Type) (world : Collaborators σ) (s : Session σ),
        Session.run world (exportHook config c') s = Session.run world (exportHook config c) s) ↔
        config.exportCertificateKey = "tls.crt" ∨ ¬c.Exportable)) := by
  intro config
  obtain ⟨target, htarget, hkey⟩ := key_of_targetRecord? hread hrecord
  refine ⟨fun σ world s t dest hok => ?_, fun habsent j' c' r' hread' hrecord' hempty hsame => ?_⟩
  · obtain ⟨target', arn, passphrase, material, made, htarget', rfl, hmaterial, hwritten⟩ :=
      exportHook_writes hok
    cases htarget.symm.trans htarget'
    refine ⟨fun hempty => ?_, fun habsent => ?_, arn, passphrase, material, made, hmaterial,
      hwritten⟩
    · rw [hempty] at hkey
      rw [certificateKey_eq, ← Option.some.inj hkey, keyName_empty]
    · rw [habsent] at hkey
      rw [certificateKey_eq, ← Option.some.inj hkey, keyName_defaultKey]
  · obtain ⟨target', htarget', hkey'⟩ := key_of_targetRecord? hread' hrecord'
    rw [habsent] at hkey
    rw [hempty] at hkey'
    have hc : c.withExportKey ExportTarget.defaultKey = c :=
      Option.some.inj hkey ▸ withExportKey_self htarget
    have hc' : c.withExportKey "" = c' :=
      hsame.symm.trans (Option.some.inj hkey' ▸ withExportKey_self htarget')
    have hiff := exportHook_withExportKey_iff config c "" ExportTarget.defaultKey
    rwa [hc, hc', keyName_empty, keyName_defaultKey] at hiff

/-! ## A configuration with a name of its own -/

/-- The name for certificates is configured, and nothing else. -/
def customKey : Environment := fun name =>
  if name = "EXPORT_CERTIFICATE_KEY" then some (Bytes.ofText "custom") else none

/-- The document of `exporting`, with the rest of its target. -/
def exportingDocument (rest : List (String × Json)) : Json := .object [
  ("metadata", .object [("name", .text "web")]),
  ("spec", .object [
    ("domainName", .text "example.com"),
    ("exportTo", .object (("name", .text "tls") :: rest)),
    ("exportPassphrase", .object [("name", .text "ps"), ("key", .text "passphrase")])]),
  ("status", .object [("certificateARN", .text "arn:web")])]

theorem customKey_exportCertificateKey :
    (Config.ofEnvironment customKey).exportCertificateKey = "custom" := by decide +kernel

theorem ofJson?_exportingDocument :
    ofJson? (exportingDocument []) = some (exporting "tls.crt") ∧
      ofJson? (exportingDocument [("key", .text "")]) = some (exporting "") := ⟨rfl, rfl⟩

theorem Delivers.reconfigure {answer : Bytes → ExportAnswer} {secrets : SecretTable} {d : Delivery}
    {target : ExportTarget} (h : c.Delivers config answer secrets d)
    (htarget : c.spec.exportTo = some target) (config' : Config) :
    c.Delivers config' answer secrets
      { d with destination := c.exportDestination config' target } := by
  obtain ⟨target', htarget', hname, -⟩ := h.destination
  cases htarget.symm.trans htarget'
  exact { h with
    destination := ⟨target, htarget, hname, c.exportDestination_completes config' target⟩ }

theorem exporting_configured (config : Config) (key : String) : ∃ pem t,
    Session.run (World.collaborators fun _ => {}) (exportHook config (exporting key))
        { world := exportWorld pem } =
      (.ok (.exported ((exporting key).exportDestination config ⟨"", "tls", key⟩)), t) := by
  obtain ⟨pem, hpem⟩ := exists_decryptKey_emptyKey (Bytes.ofText "pw")
  have hd := (exporting_delivers key hpem).reconfigure rfl config
  have hok := exportHook_undisturbed (s := { world := exportWorld pem }) (World.exportStore _)
    World.undisturbed rfl hd
  exact ⟨pem, _, Prod.ext hok rfl⟩

/-- Without a key the certificate goes to another entry than the one configured. -/
theorem exporting_misses_configured :
    ∃ pem t dest,
      ofJson? (exportingDocument []) = some (exporting "tls.crt") ∧
      (targetRecord? (exportingDocument []) >>= fun r => r "key").isNone ∧
      Session.run (World.collaborators fun _ => {})
          (exportHook (.ofEnvironment customKey) (exporting "tls.crt"))
          { world := exportWorld pem } = (.ok (.exported dest), t) ∧
      dest.certificateKey ≠ (Config.ofEnvironment customKey).exportCertificateKey := by
  obtain ⟨pem, t, hrun⟩ := exporting_configured (.ofEnvironment customKey) "tls.crt"
  refine ⟨pem, t, _, rfl, rfl, hrun, ?_⟩
  rw [certificateKey_eq, customKey_exportCertificateKey]
  decide

/-- The two documents are exported to two entries, and so are not the same. -/
theorem exportingDocument_keys :
    ∃ pem pem' dest dest' t t',
      Session.run (World.collaborators fun _ => {})
          (exportHook (.ofEnvironment customKey) (exporting "tls.crt"))
          { world := exportWorld pem } = (.ok (.exported dest), t) ∧
      dest.certificateKey = "tls.crt" ∧
      Session.run (World.collaborators fun _ => {})
          (exportHook (.ofEnvironment customKey) (exporting ""))
          { world := exportWorld pem' } = (.ok (.exported dest'), t') ∧
      dest'.certificateKey = "custom" ∧
      ¬∀ (σ : Type) (world : Collaborators σ) (s : Session σ),
        Session.run world (exportHook (.ofEnvironment customKey) (exporting "")) s =
          Session.run world (exportHook (.ofEnvironment customKey) (exporting "tls.crt")) s := by
  obtain ⟨pem, t, hrun⟩ := exporting_configured (.ofEnvironment customKey) "tls.crt"
  obtain ⟨pem', t', hrun'⟩ := exporting_configured (.ofEnvironment customKey) ""
  obtain ⟨hread, hread'⟩ := ofJson?_exportingDocument
  have habsent := exportHook_defaultKey customKey hread rfl
  have hempty := exportHook_defaultKey customKey hread' rfl
  refine ⟨pem, pem', _, _, t, t', hrun, (habsent.1 _ _ _ _ _ hrun).2.1 rfl, hrun', ?_, ?_⟩
  · rw [(hempty.1 _ _ _ _ _ hrun').1 rfl]
    exact customKey_exportCertificateKey
  · rw [habsent.2 rfl _ _ _ hread' rfl rfl rfl, customKey_exportCertificateKey]
    have hname : Text.allBlank "tls" = false := by decide +kernel
    have hkeys : "custom" ≠ "tls.crt" := by decide
    exact not_or.mpr ⟨hkeys, not_not.mpr ⟨_, _, _, rfl, rfl, hname, rfl⟩⟩

end Certificate

end CertSync
