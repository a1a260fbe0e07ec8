import CertSync.Proofs.Export.Run
import CertSync.Proofs.Key.Sealed
import CertSync.Proofs.Session.Proceed

/-!
# The course of an export

An export that nothing cancels takes one of a few courses. Each is given by the calls that are made,
what these are answered, and what the run ends in.
-/

namespace CertSync

variable {σ : Type}

namespace Certificate

def passphraseCall (c : Certificate) (ref : SecretRef) : Call :=
  .secret (.resolve c.nsOrDefault ref)

/-- The private key as an export of the certificate writes it. -/
def exportedKey (c : Certificate) (passphrase : String) (material : ExportedMaterial) :
    Except KeyError String :=
  decryptKey (Bytes.ofText material.privateKey) (Bytes.ofText passphrase)
    (c.spec.keyAlgorithm.map KeyAlgorithm.family)

/-- The courses of the two writes, from the state `w` on. -/
inductive DeliveryCourse (world : Collaborators σ) (c : Certificate) (passphrase : String)
    (dest : ExportDestination) (material : ExportedMaterial) (w : σ) :
    List (Call × σ) → Except HookError Unit → σ → Prop
  | certificateUnwritten {error : ErrorChain} {w1 : σ}
      (hwrite : world (dest.certificateCall material) w = (⟨.fails error, false⟩, w1)) :
      DeliveryCourse world c passphrase dest material w
        [(dest.certificateCall material, w)]
        (.error (c.exportSite.error (.retryable error))) w1
  /-- The certificate has been written by then, and is left as it is. -/
  | keyRefused {error : KeyError} {w1 : σ}
      (hwrite : world (dest.certificateCall material) w = (⟨.returns (), false⟩, w1))
      (hkey : c.exportedKey passphrase material = .error error) :
      DeliveryCourse world c passphrase dest material w
        [(dest.certificateCall material, w)]
        (.error (c.exportSite.error (.terminal (.keyDecryption error)))) w1
  | keyUnwritten {privateKey : String} {error : ErrorChain} {w1 w2 : σ}
      (hwrite : world (dest.certificateCall material) w = (⟨.returns (), false⟩, w1))
      (hkey : c.exportedKey passphrase material = .ok privateKey)
      (hwriteKey : world (dest.privateKeyCall privateKey) w1 = (⟨.fails error, false⟩, w2)) :
      DeliveryCourse world c passphrase dest material w
        [(dest.certificateCall material, w), (dest.privateKeyCall privateKey, w1)]
        (.error (c.exportSite.error (.retryable error))) w2
  | delivered {privateKey : String} {w1 w2 : σ}
      (hwrite : world (dest.certificateCall material) w = (⟨.returns (), false⟩, w1))
      (hkey : c.exportedKey passphrase material = .ok privateKey)
      (hwriteKey : world (dest.privateKeyCall privateKey) w1 = (⟨.returns (), false⟩, w2)) :
      DeliveryCourse world c passphrase dest material w
        [(dest.certificateCall material, w), (dest.privateKeyCall privateKey, w1)] (.ok ()) w2

def exportCall (arn passphrase : String) : Call :=
  .service (.exportCertificate arn (Bytes.ofText passphrase))

/-- The courses of an export whose fields are all there, from the state `w` on. -/
inductive ExportCourse (world : Collaborators σ) (c : Certificate) (arn : String) (ref : SecretRef)
    (dest : ExportDestination) (w : σ) :
    List (Call × σ) → Except HookError ExportOutcome → σ → Prop
  | unresolved {error : ErrorChain} {w1 : σ}
      (hresolve : world (c.passphraseCall ref) w = (⟨.fails error, false⟩, w1)) :
      ExportCourse world c arn ref dest w [(c.passphraseCall ref, w)]
        (.error (c.exportSite.error
          (.terminal (.unresolvedSecret "exportPassphrase" ref.toText)))) w1
  | emptyPassphrase {passphrase : String} {w1 : σ}
      (hresolve : world (c.passphraseCall ref) w = (⟨.returns passphrase, false⟩, w1))
      (hempty : passphrase.isEmpty = true) :
      ExportCourse world c arn ref dest w [(c.passphraseCall ref, w)]
        (.error (c.exportSite.error
          (.terminal (.unresolvedSecret "exportPassphrase" ref.toText)))) w1
  | exportFailed {passphrase : String} {error : ErrorChain} {w1 w2 : σ}
      (hresolve : world (c.passphraseCall ref) w = (⟨.returns passphrase, false⟩, w1))
      (hempty : passphrase.isEmpty = false)
      (hexport : world (exportCall arn passphrase) w1 = (⟨.fails error, false⟩, w2)) :
      ExportCourse world c arn ref dest w
        [(c.passphraseCall ref, w), (exportCall arn passphrase, w1)]
        (.error (c.exportSite.error (.retryable error))) w2
  | notFound {passphrase : String} {w1 w2 : σ}
      (hresolve : world (c.passphraseCall ref) w = (⟨.returns passphrase, false⟩, w1))
      (hempty : passphrase.isEmpty = false)
      (hexport : world (exportCall arn passphrase) w1 =
        (⟨.returns ExportAnswer.notFound, false⟩, w2)) :
      ExportCourse world c arn ref dest w
        [(c.passphraseCall ref, w), (exportCall arn passphrase, w1)] (.ok .remoteNotFound) w2
  | delivers {passphrase : String} {material : ExportedMaterial} {w1 w2 w3 : σ}
      {made : List (Call × σ)} {result : Except HookError Unit}
      (hresolve : world (c.passphraseCall ref) w = (⟨.returns passphrase, false⟩, w1))
      (hempty : passphrase.isEmpty = false)
      (hexport : world (exportCall arn passphrase) w1 =
        (⟨.returns (ExportAnswer.exported material), false⟩, w2))
      (hdeliver : DeliveryCourse world c passphrase dest material w2 made result w3) :
      ExportCourse world c arn ref dest w
        ((c.passphraseCall ref, w) :: (exportCall arn passphrase, w1) :: made)
        (result.map fun _ => .exported dest) w3

variable {world : Collaborators σ} {config : Config} {c : Certificate} {s : Session σ}
  {arn passphrase : String} {ref : SecretRef} {dest : ExportDestination}
  {material : ExportedMaterial} {w w' : σ} {made : List (Call × σ)}

/-! ## The courses are what a run can take -/

theorem deliver_course {result : Except HookError Unit}
    (h : (c.deliver passphrase dest material).Proceeds world w made result w') :
    DeliveryCourse world c passphrase dest material w made result w' := by
  unfold deliver at h
  rw [material.bundle_eq] at h
  rcases h.of_bind with ⟨e, rfl, hwrite⟩ | ⟨_, before, rest, w1, rfl, hwrite, hrest⟩
  · obtain ⟨rfl, ⟨-, hok⟩ | ⟨error, hcall, he⟩⟩ := hwrite.of_write
    · cases hok
    · rw [he]
      exact .certificateUnwritten hcall
  obtain ⟨rfl, ⟨hcall, -⟩ | ⟨error, -, he⟩⟩ := hwrite.of_write
  · have hrest := hrest.of_log
    cases hkey : decryptKey (Bytes.ofText material.privateKey) (Bytes.ofText passphrase)
      (c.spec.keyAlgorithm.map KeyAlgorithm.family) with
    | error error =>
      simp only [hkey] at hrest
      obtain ⟨rfl, rfl, rfl⟩ := hrest.of_throw
      exact .keyRefused hcall hkey
    | ok privateKey =>
      simp only [hkey] at hrest
      obtain ⟨rfl, ⟨hcallKey, rfl⟩ | ⟨error, hcallKey, rfl⟩⟩ := hrest.of_write
      · exact .delivered hcall hkey hcallKey
      · exact .keyUnwritten hcall hkey hcallKey
  · cases he

theorem exportPassphrase_proceeds {result : Except HookError String}
    (h : (c.exportPassphrase ref).Proceeds world w made result w') :
    made = [(c.passphraseCall ref, w)] ∧
      ((∃ passphrase, world (c.passphraseCall ref) w = (⟨.returns passphrase, false⟩, w') ∧
        passphrase.isEmpty = false ∧ result = .ok passphrase) ∨
      ((∃ passphrase, world (c.passphraseCall ref) w = (⟨.returns passphrase, false⟩, w') ∧
          passphrase.isEmpty = true) ∨
        ∃ error, world (c.passphraseCall ref) w = (⟨.fails error, false⟩, w')) ∧
        result = .error (c.exportSite.error
          (.terminal (.unresolvedSecret "exportPassphrase" ref.toText)))) := by
  unfold exportPassphrase at h
  rcases h.of_bind with ⟨e, rfl, hresolve⟩ | ⟨passphrase, before, rest, w1, rfl, hresolve, hrest⟩
  · obtain ⟨rfl, ⟨_, -, hok⟩ | ⟨error, hcall, he⟩⟩ := hresolve.of_resolve
    · cases hok
    · rw [he]
      exact ⟨rfl, .inr ⟨.inr ⟨error, hcall⟩, rfl⟩⟩
  obtain ⟨rfl, ⟨value, hcall, hvalue⟩ | ⟨error, -, he⟩⟩ := hresolve.of_resolve
  · cases hvalue
    cases hempty : passphrase.isEmpty with
    | true =>
      simp only [hempty, if_true] at hrest
      obtain ⟨rfl, rfl, rfl⟩ := hrest.of_throw
      exact ⟨rfl, .inr ⟨.inl ⟨passphrase, hcall, hempty⟩, rfl⟩⟩
    | false =>
      simp only [hempty, Bool.false_eq_true, if_false] at hrest
      obtain ⟨rfl, rfl, rfl⟩ := hrest.of_pure
      exact ⟨rfl, .inl ⟨passphrase, hcall, hempty, rfl⟩⟩
  · cases he

theorem exportMaterial_course {result : Except HookError ExportOutcome}
    (h : (c.exportMaterial arn ref dest).Proceeds world w made result w') :
    ExportCourse world c arn ref dest w made result w' := by
  unfold exportMaterial at h
  rcases h.of_bind with ⟨e, rfl, hresolve⟩ | ⟨passphrase, before, rest, w1, rfl, hresolve, hrest⟩
  · obtain ⟨rfl, ⟨_, -, -, hok⟩ | ⟨⟨passphrase, hcall, hempty⟩ | ⟨error, hcall⟩, he⟩⟩ :=
      exportPassphrase_proceeds hresolve
    · cases hok
    · cases he
      exact .emptyPassphrase hcall hempty
    · cases he
      exact .unresolved hcall
  obtain ⟨rfl, ⟨value, hcall, hempty, hvalue⟩ | ⟨-, he⟩⟩ := exportPassphrase_proceeds hresolve
  swap
  · cases he
  cases hvalue
  rcases hrest.of_bind with ⟨e, rfl, hexport⟩ | ⟨answer, before, rest, w2, rfl, hexport, hrest⟩
  · obtain ⟨rfl, ⟨_, -, hok⟩ | ⟨error, hcall', he⟩⟩ := hexport.of_service
    · cases hok
    · cases he
      exact .exportFailed hcall hempty hcall'
  obtain ⟨rfl, ⟨value, hcall', hvalue⟩ | ⟨error, -, he⟩⟩ := hexport.of_service
  swap
  · cases he
  cases hvalue
  cases answer with
  | notFound =>
    obtain ⟨rfl, rfl, rfl⟩ := hrest.of_log.of_pure
    exact .notFound hcall hempty hcall'
  | exported material =>
    rcases hrest.of_bind with ⟨e, rfl, hdeliver⟩ | ⟨_, before, rest, w3, rfl, hdeliver, hrest⟩
    · exact .delivers hcall hempty hcall' (deliver_course hdeliver)
    · obtain ⟨rfl, rfl, rfl⟩ := hrest.of_log.of_pure
      rw [List.append_nil]
      exact .delivers hcall hempty hcall' (deliver_course hdeliver)

/-! ## What the courses have in common -/

variable {result : Except HookError ExportOutcome}

/-- The call returned, in the state that it was made in. -/
def StepReturned (world : Collaborators σ) (step : Call × σ) : Prop :=
  ∃ a, (world step.1 step.2).1.ending = .returns a

theorem stepReturned_of_eq {call : Call} {a : call.Answer}
    (h : world call w = (⟨.returns a, false⟩, w')) : StepReturned world (call, w) :=
  ⟨a, by rw [h]⟩

theorem not_stepReturned_of_eq {call : Call} {error : ErrorChain}
    (h : world call w = (⟨.fails error, false⟩, w')) : ¬StepReturned world (call, w) := by
  rintro ⟨a, ha⟩
  rw [h] at ha
  cases ha

theorem ExportCourse.calls_prefix (h : ExportCourse world c arn ref dest w made result w') :
    ∃ (passphrase : String) (material : ExportedMaterial) (privateKey : String),
      made.map Prod.fst <+: [
        .secret (.resolve (c.metadata.ns.getD "default") ref),
        .service (.exportCertificate arn (Bytes.ofText passphrase)),
        .secret (.write dest.ns dest.name dest.certificateKey
          (material.certificate ++ material.chain.getD "")),
        .secret (.write dest.ns dest.name dest.privateKeyKey privateKey)] := by
  -- What the run did not come to may be anything.
  let nothing : ExportedMaterial := ⟨"", none, ""⟩
  cases h with
  | unresolved => exact ⟨"", nothing, "", _, rfl⟩
  | emptyPassphrase => exact ⟨"", nothing, "", _, rfl⟩
  | @exportFailed passphrase => exact ⟨passphrase, nothing, "", _, rfl⟩
  | @notFound passphrase => exact ⟨passphrase, nothing, "", _, rfl⟩
  | @delivers passphrase material _ _ _ _ _ _ _ _ hdeliver =>
    cases hdeliver with
    | certificateUnwritten => exact ⟨passphrase, material, "", _, rfl⟩
    | keyRefused => exact ⟨passphrase, material, "", _, rfl⟩
    | @keyUnwritten privateKey => exact ⟨passphrase, material, privateKey, _, rfl⟩
    | @delivered privateKey => exact ⟨passphrase, material, privateKey, _, rfl⟩

theorem ExportCourse.exported_iff (h : ExportCourse world c arn ref dest w made result w') :
    result = .ok (.exported dest) ↔ made.length = 4 ∧ ∀ step ∈ made, StepReturned world step := by
  cases h with
  | unresolved => simp
  | emptyPassphrase => simp
  | exportFailed => simp
  | notFound => simp
  | delivers hresolve hempty hexport hdeliver =>
    cases hdeliver with
    | certificateUnwritten => simp [Except.map]
    | keyRefused => simp [Except.map]
    | keyUnwritten _ _ hwriteKey => simp [Except.map, not_stepReturned_of_eq hwriteKey]
    | delivered hwrite hkey hwriteKey =>
      simp [Except.map, stepReturned_of_eq hresolve, stepReturned_of_eq hexport,
        stepReturned_of_eq hwrite, stepReturned_of_eq hwriteKey]

theorem ExportCourse.ne_skipped (h : ExportCourse world c arn ref dest w made result w') :
    result ≠ .ok .skipped := by
  cases h with
  | @delivers _ _ _ _ _ _ delivered => cases delivered <;> nofun
  | _ => nofun

/-! ## A run of the hook -/

variable {s t : Session σ} {target : ExportTarget}

theorem exportHook_unset (h : c.spec.exportTo = none ∨ c.spec.exportPassphrase = none)
    (hrun : Session.run world (exportHook config c) s = (result, t)) :
    result = .ok .skipped ∧ t = s := by
  rw [exportHook_of_unset h] at hrun
  cases hrun
  exact ⟨rfl, rfl⟩

theorem exportHook_blank (htarget : c.spec.exportTo = some target)
    (href : c.spec.exportPassphrase = some ref) (hname : Text.allBlank target.name = true)
    (hrun : Session.run world (exportHook config c) s = (result, t)) :
    result = .error (c.exportSite.error (.terminal .missingExportDestination)) ∧ t = s := by
  rw [exportHook_of_blank htarget href hname] at hrun
  cases hrun
  exact ⟨rfl, rfl⟩

theorem exportHook_missing_arn (htarget : c.spec.exportTo = some target)
    (href : c.spec.exportPassphrase = some ref) (hname : Text.allBlank target.name = false)
    (harn : c.arn? = none) (hrun : Session.run world (exportHook config c) s = (result, t)) :
    (∃ error, result = .error (c.exportSite.error (.retryable error))) ∧ t = s := by
  rw [exportHook_of_missing_arn htarget href hname harn] at hrun
  cases hrun
  exact ⟨⟨_, rfl⟩, rfl⟩

theorem exportHook_delivers (htarget : c.spec.exportTo = some target)
    (href : c.spec.exportPassphrase = some ref) (hname : Text.allBlank target.name = false)
    (harn : c.arn? = some arn) (hrun : Session.run world (exportHook config c) s = (result, t))
    (ht : t.cancelled = false) :
    ∃ made, t.calls = s.calls ++ made.map Prod.fst ∧
      ExportCourse world c arn ref (c.exportDestination config target) s.world made result
        t.world := by
  have hcalls := Session.run_calls world (exportHook config c) s
  have hproceeds := Session.proceeds_of_run world (exportHook config c) (s := s) (by rwa [hrun])
  rw [hrun] at hcalls hproceeds
  rw [exportHook_of_fields htarget href hname harn] at hproceeds hcalls
  exact ⟨_, hcalls, exportMaterial_course hproceeds.of_log⟩

theorem exportHook_skipped (hrun : Session.run world (exportHook config c) s = (result, t))
    (ht : t.cancelled = false) (h : result = .ok .skipped) :
    c.spec.exportTo = none ∨ c.spec.exportPassphrase = none := by
  cases htarget : c.spec.exportTo with
  | none => exact .inl rfl
  | some target =>
    cases href : c.spec.exportPassphrase with
    | none => exact .inr rfl
    | some ref =>
      cases hname : Text.allBlank target.name with
      | true =>
        rw [(exportHook_blank htarget href hname hrun).1] at h
        cases h
      | false =>
        cases harn : c.arn? with
        | none =>
          obtain ⟨⟨_, he⟩, -⟩ := exportHook_missing_arn htarget href hname harn hrun
          rw [he] at h
          cases h
        | some arn =>
          obtain ⟨_, -, hcourse⟩ := exportHook_delivers htarget href hname harn hrun ht
          exact absurd h hcourse.ne_skipped

/-- What a run of the hook does if nothing cancels it, from the fields that decide whether it calls
anyone at all to the courses that it can take then. -/
theorem exportHook_course (hrun : Session.run world (exportHook config c) s = (result, t))
    (ht : t.cancelled = false) :
    (result = .ok .skipped ↔ c.spec.exportTo = none ∨ c.spec.exportPassphrase = none) ∧
    (result = .ok .skipped → t = s) ∧
    ∀ target ref, c.spec.exportTo = some target → c.spec.exportPassphrase = some ref →
      (Text.allBlank target.name = true →
        result = .error (c.exportSite.error (.terminal .missingExportDestination)) ∧ t = s) ∧
      (Text.allBlank target.name = false →
        (∀ arn, c.status.bind (·.certificateArn) = some arn → arn = "") →
        (∃ error, result = .error (c.exportSite.error (.retryable error))) ∧ t = s) ∧
      ∀ arn, Text.allBlank target.name = false →
        c.status.bind (·.certificateArn) = some arn → arn ≠ "" →
        ∃ dest made, c.Completes config target dest ∧ t.calls = s.calls ++ made.map Prod.fst ∧
          ExportCourse world c arn ref dest s.world made result t.world ∧
          (∃ (passphrase : String) (material : ExportedMaterial) (privateKey : String),
            made.map Prod.fst <+: [
              .secret (.resolve (c.metadata.ns.getD "default") ref),
              .service (.exportCertificate arn (Bytes.ofText passphrase)),
              .secret (.write dest.ns dest.name dest.certificateKey
                (material.certificate ++ material.chain.getD "")),
              .secret (.write dest.ns dest.name dest.privateKeyKey privateKey)]) ∧
          (result = .ok (.exported dest) ↔
            made.length = 4 ∧ ∀ step ∈ made, StepReturned world step) := by
  have hskipped := exportHook_skipped hrun ht
  refine ⟨⟨hskipped, fun h => (exportHook_unset h hrun).1⟩,
    fun h => (exportHook_unset (hskipped h) hrun).2, ?_⟩
  intro target ref htarget href
  refine ⟨fun hname => exportHook_blank htarget href hname hrun,
    fun hname harn =>
      exportHook_missing_arn htarget href hname (arn?_eq_none_iff.mpr harn) hrun, ?_⟩
  intro arn hname hfound harn
  obtain ⟨made, hcalls, hcourse⟩ :=
    exportHook_delivers htarget href hname (arn?_eq_some_iff.mpr ⟨hfound, harn⟩) hrun ht
  exact ⟨_, made, c.exportDestination_completes config target, hcalls, hcourse,
    hcourse.calls_prefix, hcourse.exported_iff⟩

/-- A target that leaves its namespace and its key empty, and a chain that is written after the
certificate. -/
theorem exporting_course :
    ∃ (pem : String) (t : Session World) (dest : ExportDestination) (made : List (Call × World)),
      Session.run (World.collaborators fun _ => {}) (exportHook {} (exporting ""))
        { world := exportWorld pem } = (.ok (.exported dest), t) ∧
      t.cancelled = false ∧ dest = ⟨"default", "tls", "tls.crt", "tls.key"⟩ ∧
      t.calls = made.map Prod.fst ∧
      t.calls = [
        .secret (.resolve "default" ⟨"ps", none, "passphrase"⟩),
        .service (.exportCertificate "arn:web" (Bytes.ofText "pw")),
        .secret (.write "default" "tls" "tls.crt" "CERTCHAIN"),
        .secret (.write "default" "tls" "tls.key" emptyKey.toText)] ∧
      ExportCourse (World.collaborators fun _ => {}) (exporting "") "arn:web"
        ⟨"ps", none, "passphrase"⟩ dest (exportWorld pem) made (.ok (.exported dest)) t.world := by
  obtain ⟨pem, hpem⟩ := exists_decryptKey_emptyKey (Bytes.ofText "pw")
  have hd := exporting_delivers "" hpem
  have hrun := exportWorld_exported hd
  have ht := Session.run_not_cancelled World.collaborators_steady (exportHook {} (exporting ""))
    (s := { world := exportWorld pem }) rfl
  have hname : Text.allBlank "tls" = false := by decide +kernel
  have hfields := (exportHook_course hrun ht).2.2 ⟨"", "tls", ""⟩ ⟨"ps", none, "passphrase"⟩ rfl rfl
  obtain ⟨dest, made, hdest, hcalls, hcourse, -⟩ := hfields.2.2 "arn:web" hname rfl (by decide)
  obtain ⟨d, hd', -, -, -, hmade, -⟩ := exportHook_exported (World.exportStore _) hrun
  cases hd'.unique hd
  cases hdest.eq
  exact ⟨pem, _, _, made, hrun, ht, rfl, hcalls, hmade, hcourse⟩

end Certificate

end CertSync
