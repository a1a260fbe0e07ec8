import CertSync.Proofs.Import.Run
import CertSync.Proofs.Operation.Basic
import CertSync.Proofs.Session.Trace
import CertSync.Validation

/-!
# What validation spares the hooks

A resource that was accepted is not to be refused for its own fields afterwards. So if a hook ends
in a terminal error, it has called somebody first. This is so for exports, but an import also looks
for a field that validation does not ask for.
-/

namespace CertSync

variable {σ α : Type}

namespace Hook

/-- A terminal error of the hook comes after a call, whoever answers it. -/
def CallsFirst (hook : Hook α) : Prop :=
  ∀ (σ : Type) (world : Collaborators σ) (s t : Session σ) (e : HookError),
    Session.run world hook s = (.error e, t) → e.isTerminal = true → ∃ c, s.calls ++ [c] <+: t.calls

/-- Up to its first call the hook does not end in a terminal error. -/
inductive Opens : Hook α → Prop
  | ok (a : α) : Opens (Program.done (.ok a))
  | error {e : HookError} (he : e.isTerminal = false) : Opens (Program.done (.error e))
  | note {r : Effect} {next : r.Answer → Hook α} (hr : ∀ c, r ≠ .call c)
      (h : ∀ a, Opens (next a)) : Opens (Program.ask r next)
  | call (c : Call) (next : Outcome c.Answer → Hook α) : Opens (Program.ask (.call c) next)

theorem Opens.callsFirst {hook : Hook α} (h : hook.Opens) (hprompt : hook.Prompt) :
    hook.CallsFirst := by
  intro σ world s t e hrun he
  induction h generalizing s with
  | ok a => exact nomatch (Prod.mk.inj hrun).1
  | error hnot =>
    cases hrun
    exact absurd he (by simp [hnot])
  | @note r next hr _ ih =>
    have a := (Session.handle world r s).1
    rw [Session.run_note hr _ a] at hrun
    rw [← (Session.handle_note world hr s).calls]
    refine ih a ?_ _ hrun
    cases hprompt with
    | note _ hnext => exact hnext a
    | call _ _ _ _ _ => exact absurd rfl (hr _)
  | call c next =>
    cases hprompt with
    | note hr _ => exact absurd rfl (hr c)
    | call site field _ _ stopped =>
      rw [Session.run_ask_call] at hrun
      cases hs : s.cancelled with
      | true =>
        rw [Session.call_of_cancelled hs] at hrun
        cases Session.error_of_ends stopped hrun
        exact nomatch he
      | false =>
        have hprefix := Session.calls_prefix world (next (Session.call world c s).1)
          (Session.call world c s).2
        rw [hrun, Session.call_calls hs] at hprefix
        exact ⟨c, hprefix⟩

theorem Ends.not_callsFirst {hook : Hook α} {e : HookError} (h : hook.Ends e)
    (he : e.isTerminal = true) : ¬hook.CallsFirst := by
  intro hfirst
  let world : Collaborators Unit := fun _ _ => (⟨.hangs, true⟩, ())
  obtain ⟨t, ht, halike⟩ := Session.run_of_ends world h { world := () }
  obtain ⟨c, hc⟩ := hfirst Unit world _ t e ht he
  rw [halike.calls] at hc
  simpa using hc.length_le

end Hook

theorem ok_of_bind {ε β : Type} {x : Except ε α} {next : α → Except ε β} {b : β}
    (h : (x >>= next) = .ok b) : ∃ a, x = .ok a ∧ next a = .ok b := by
  cases x with
  | error e => cases h
  | ok a => exact ⟨a, rfl, h⟩

namespace Certificate

variable {config : Config} {c : Certificate} {mode : AcquisitionMode}

/-! ## What was checked -/

theorem check_ok (h : c.check = .ok mode) :
    c.mode = .ok mode ∧ c.checkExportOptions = .ok () := by
  unfold check at h
  obtain ⟨found, hmode, h⟩ := ok_of_bind h
  split at h
  · cases h
  · obtain ⟨_, -, h⟩ := ok_of_bind h
    obtain ⟨_, hexport, h⟩ := ok_of_bind h
    cases h
    exact ⟨hmode, hexport⟩

theorem check_of_validate (h : c.validate = .ok mode) : c.check = .ok mode := by
  unfold validate at h
  cases hcheck : c.check with
  | error reason =>
    rw [hcheck] at h
    cases h
  | ok found =>
    rw [hcheck] at h
    cases h
    rfl

theorem checkExportOptions_ok {target : ExportTarget} (h : c.checkExportOptions = .ok ())
    (htarget : c.spec.exportTo = some target) :
    (∃ ref, c.spec.exportPassphrase = some ref) ∧ Text.allBlank target.name = false := by
  unfold checkExportOptions at h
  rw [htarget] at h
  cases href : c.spec.exportPassphrase with
  | none => simp [href] at h
  | some ref =>
    cases hname : Text.allBlank target.name with
    | true => simp [href, hname] at h
    | false => exact ⟨⟨ref, rfl⟩, rfl⟩

theorem privateKey_of_imported (h : c.mode = .ok .imported) :
    ∃ ref, c.spec.privateKey = some ref := by
  cases hkey : c.spec.privateKey with
  | some ref => exact ⟨ref, rfl⟩
  | none =>
    unfold mode at h
    simp only [hkey, Option.isNone_none, if_true] at h
    split at h
    · cases h
    · split at h
      · cases h
      · split at h <;> cases h

/-! ## Exports -/

theorem exportHook_opens (h : c.checkExportOptions = .ok ()) : (exportHook config c).Opens := by
  cases htarget : c.spec.exportTo with
  | none =>
    unfold exportHook
    rw [htarget]
    exact .ok _
  | some target =>
    obtain ⟨⟨ref, href⟩, hname⟩ := checkExportOptions_ok h htarget
    cases harn : c.arn? with
    | none =>
      rw [exportHook_of_missing_arn htarget href hname harn]
      exact .error rfl
    | some arn =>
      rw [exportHook_of_fields htarget href hname harn]
      exact .note (fun _ h => nomatch h) fun _ => .call _ _

/-! ## Imports -/

theorem importRequest_of_refs {certificate privateKey : SecretRef}
    (hcertificate : c.spec.certificate = some certificate)
    (hkey : c.spec.privateKey = some privateKey) :
    ∃ next, c.importRequest =
      Program.ask (.call (.secret (.resolve c.nsOrDefault certificate))) next := by
  unfold importRequest
  rw [hcertificate, hkey]
  exact ⟨_, rfl⟩

theorem importRequest_of_missing (hcertificate : c.spec.certificate = none) :
    c.importRequest = c.importSite.terminal (.missingImportField "certificate") := by
  unfold importRequest
  rw [hcertificate]
  rfl

/-- The error of an import that names no certificate. -/
def missingCertificate (c : Certificate) : HookError :=
  ⟨"import", c.resourceKey, .terminal (.missingImportField "certificate")⟩

theorem importHook_opens (h : c.mode = .ok mode)
    (hcertificate : mode = .imported → c.spec.certificate.isSome = true) :
    (importHook config c).Opens := by
  cases mode with
  | imported =>
    obtain ⟨certificate, hcertificate⟩ := Option.isSome_iff_exists.mp (hcertificate rfl)
    obtain ⟨privateKey, hkey⟩ := privateKey_of_imported h
    obtain ⟨next, hnext⟩ := importRequest_of_refs hcertificate hkey
    rw [importHook_of_imported h, hnext]
    exact .note (fun _ h => nomatch h) fun _ => .call _ _
  | requested =>
    unfold importHook
    rw [h]
    exact .ok _
  | unspecified =>
    unfold importHook
    rw [h]
    exact .ok _

theorem importHook_ends (h : c.mode = .ok .imported) (hcertificate : c.spec.certificate = none) :
    (importHook config c).Ends c.missingCertificate := by
  rw [importHook_of_imported h, importRequest_of_missing hcertificate]
  exact .note (fun _ h => nomatch h) fun _ => .throw

/-- After validation an export calls somebody before it can be refused for good, and an import does
so if it names a certificate. One that does not is always refused, and calls nobody. -/
theorem validate_preflight (h : c.validate = .ok mode) (config : Config) :
    (exportHook config c).CallsFirst ∧
      ((importHook config c).CallsFirst ↔
        (mode = .imported → c.spec.certificate.isSome = true)) ∧
      (mode = .imported → c.spec.certificate = none →
        (importHook config c).Ends c.missingCertificate) := by
  obtain ⟨hmode, hexport⟩ := check_ok (check_of_validate h)
  have hends : mode = .imported → c.spec.certificate = none →
      (importHook config c).Ends c.missingCertificate := by
    rintro rfl hcertificate
    exact importHook_ends hmode hcertificate
  refine ⟨(exportHook_opens hexport).callsFirst exportHook_composed.prompt, ⟨?_, ?_⟩, hends⟩
  · intro hfirst himported
    cases hcertificate : c.spec.certificate with
    | some certificate => rfl
    | none => exact absurd hfirst ((hends himported hcertificate).not_callsFirst rfl)
  · intro hcertificate
    exact (importHook_opens hmode hcertificate).callsFirst importHook_composed.prompt

theorem importing_callsFirst :
    importing.validate = .ok .imported ∧ (importHook {} importing).CallsFirst ∧
      (exportHook {} importing).CallsFirst := by
  have hvalid : importing.validate = .ok .imported := rfl
  obtain ⟨hexport, himport, -⟩ := validate_preflight hvalid {}
  exact ⟨hvalid, himport.mpr fun _ => rfl, hexport⟩

/-- A resource that has a key to import, but no certificate. -/
def keyOnly : Certificate := { importing with spec := { importing.spec with certificate := none } }

/-- It is accepted, and then refused by its import without anything having been resolved. -/
theorem keyOnly_refused :
    ¬∀ (config : Config) (c : Certificate) (mode : AcquisitionMode), c.validate = .ok mode →
      (importHook config c).CallsFirst ∧ (exportHook config c).CallsFirst := by
  intro hall
  obtain ⟨himport, -⟩ := hall {} keyOnly .imported rfl
  exact (importHook_ends rfl rfl).not_callsFirst rfl himport

end Certificate

end CertSync
