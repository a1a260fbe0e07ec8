import CertSync.Proofs.Export.Footprint
import CertSync.Proofs.Key.Sealed
import CertSync.Proofs.Sharing.Memory
import CertSync.Proofs.Sharing.Turns

/-!
# Exports that share a store

Two exports may be under way at the same time, over one store of secrets. They do not disturb each
other as long as neither writes what the other reads or writes, and that can be read off the two
resources and their configurations.
-/

namespace CertSync.Certificate

variable {ρ₁ ρ₂ : Type} {env₁ : Surroundings ρ₁} {env₂ : Surroundings ρ₂}
  {config₁ config₂ : Config} {c₁ c₂ : Certificate} {s₁ : Session ρ₁} {s₂ : Session ρ₂}
  {table : SecretTable}

/-! ## Footprints -/

theorem apart_of_within {reads₁ writes₁ reads₂ writes₂ : List EntryId} {first second : List Call}
    (hfirst : ∀ call ∈ first, call.Within reads₁ writes₁)
    (hsecond : ∀ call ∈ second, call.Within reads₂ writes₂)
    (h₁ : ∀ entry ∈ writes₁, entry ∉ reads₂ ++ writes₂)
    (h₂ : ∀ entry ∈ writes₂, entry ∉ reads₁ ++ writes₁) : Apart first second where
  left := by
    rintro entry ⟨call, hcall, hwritten⟩ ⟨other, hother, htouched⟩
    exact h₁ entry ((hfirst call hcall).2 entry hwritten) ((hsecond other hother).1 entry htouched)
  right := by
    rintro entry ⟨call, hcall, hwritten⟩ ⟨other, hother, htouched⟩
    exact h₂ entry ((hsecond call hcall).2 entry hwritten) ((hfirst other hother).1 entry htouched)

theorem exportHook_within {σ : Type} (world : Collaborators σ) (config : Config) (c : Certificate)
    {s : Session σ} (hs : s.calls = []) :
    ∀ call ∈ (Session.run world (exportHook config c) s).2.calls,
      call.Within c.exportReads (c.exportWrites config) :=
  Session.calls_of_confined world (exportHook_confined config c) (by simp [hs])

/-- No entry that one of the exports may write is one that the other may read or write. -/
structure ApartByFields (config₁ config₂ : Config) (c₁ c₂ : Certificate) : Prop where
  left : ∀ entry ∈ c₁.exportWrites config₁, entry ∉ c₂.exportReads ++ c₂.exportWrites config₂
  right : ∀ entry ∈ c₂.exportWrites config₂, entry ∉ c₁.exportReads ++ c₁.exportWrites config₁

theorem ApartByFields.apart (h : ApartByFields config₁ config₂ c₁ c₂) {σ τ : Type}
    (world : Collaborators σ) (world' : Collaborators τ) {s : Session σ} {t : Session τ}
    (hs : s.calls = []) (ht : t.calls = []) :
    Apart (Session.run world (exportHook config₁ c₁) s).2.calls
      (Session.run world' (exportHook config₂ c₂) t).2.calls :=
  apart_of_within (exportHook_within world config₁ c₁ hs) (exportHook_within world' config₂ c₂ ht)
    h.left h.right

/-! ## Two exports -/

/-- However the calls of two exports fall, each ends with the result, in the session and with the
calls that it has when it is alone with the store, and the store is left as either order of the two
would leave it. Neither is to write what the other reads or writes, as they go here or alone. -/
theorem exportHook_isolated {schedule : List Side}
    {final : Joint ρ₁ ρ₂ ExportOutcome ExportOutcome} {r₁ r₂ : Except HookError ExportOutcome}
    (hrun : Joint.run env₁ env₂ schedule
      ⟨table, ⟨exportHook config₁ c₁, s₁⟩, ⟨exportHook config₂ c₂, s₂⟩⟩ = final)
    (hended : final.Ended r₁ r₂)
    (hapart : Apart final.left.session.calls final.right.session.calls ∨
      Apart (Session.run env₁.collaborators (exportHook config₁ c₁) (s₁.beside table)).2.calls
        (Session.run env₂.collaborators (exportHook config₂ c₂) (s₂.beside table)).2.calls) :
    ∃ t₁ t₂ : SecretTable,
      Session.run env₁.collaborators (exportHook config₁ c₁) (s₁.beside table) =
        (r₁, final.left.session.beside t₁) ∧
      Session.run env₂.collaborators (exportHook config₂ c₂) (s₂.beside table) =
        (r₂, final.right.session.beside t₂) ∧
      Session.run env₂.collaborators (exportHook config₂ c₂) (s₂.beside t₁) =
        (r₂, final.right.session.beside final.table) ∧
      Session.run env₁.collaborators (exportHook config₁ c₁) (s₁.beside t₂) =
        (r₁, final.left.session.beside final.table) :=
  Joint.isolated hrun hended hapart

/-! ## Two exports to one secret -/

/-- A configuration with an entry of its own for private keys. -/
def otherConfig : Config := { exportPrivateKeyKey := "other.key" }

theorem exporting_apart : ApartByFields {} otherConfig (exporting "") (exporting "other.crt") where
  left := by decide +kernel
  right := by decide +kernel

theorem exportWorld_beside {config : Config} {key pem : String} {r : Except HookError ExportOutcome}
    (h : (Session.run (World.collaborators fun _ => {}) (exportHook config (exporting key))
      { world := exportWorld pem }).1 = r) :
    (Session.run (World.surroundings fun _ => {}).collaborators (exportHook config (exporting key))
      (Session.beside { world := exportWorld pem } (exportWorld pem).secrets)).1 = r := by
  have hview := Session.run_mapWorld (World.surroundings_shows fun _ => {})
    (exportHook config (exporting key))
    (Session.beside { world := exportWorld pem } (exportWorld pem).secrets)
  exact (congrArg Prod.fst hview).symm.trans h

theorem exporting_other_delivers {pem privateKey : String}
    (h : decryptKey (Bytes.ofText pem) (Bytes.ofText "pw") none = .ok privateKey) :
    (exporting "other.crt").Delivers otherConfig (exportWorld pem).answers (exportWorld pem).secrets
      { exportDelivery "other.crt" pem privateKey with
        destination :=
          (exporting "other.crt").exportDestination otherConfig ⟨"", "tls", "other.crt"⟩ } :=
  have hd := exporting_delivers "other.crt" h
  have hname : Text.allBlank "tls" = false := by decide +kernel
  ⟨⟨_, rfl, hname, exportDestination_completes _ _ _⟩, hd.reference, hd.arn, hd.passphraseEntry,
    hd.passphrase, hd.notEmpty, hd.material, hd.privateKey⟩

/-- Two exports take turns from the start, and both get through. -/
theorem exporting_isolated :
    ∃ (pem : String) (rest : List Side) (final : Joint World World ExportOutcome ExportOutcome)
      (t₁ : SecretTable),
      Joint.run (World.surroundings fun _ => {}) (World.surroundings fun _ => {})
        ([.left, .right, .left, .right, .right, .left] ++ rest)
        ⟨(exportWorld pem).secrets,
          ⟨exportHook {} (exporting ""), { world := exportWorld pem }⟩,
          ⟨exportHook otherConfig (exporting "other.crt"), { world := exportWorld pem }⟩⟩ = final ∧
      final.Ended
        (.ok (.exported ⟨"default", "tls", "tls.crt", "tls.key"⟩))
        (.ok (.exported ⟨"default", "tls", "other.crt", "other.key"⟩)) ∧
      (Session.run (World.surroundings fun _ => {}).collaborators
        (exportHook otherConfig (exporting "other.crt"))
        (Session.beside { world := exportWorld pem } t₁)).2 =
        final.right.session.beside final.table := by
  obtain ⟨pem, hpem⟩ := exists_decryptKey_emptyKey (Bytes.ofText "pw")
  have hfirst := exportWorld_beside
    (congrArg Prod.fst (exportWorld_exported (exporting_delivers "" hpem)))
  have hsecond := exportWorld_beside (exportHook_undisturbed (s := { world := exportWorld pem })
    (World.exportStore _) World.undisturbed rfl (exporting_other_delivers hpem))
  obtain ⟨rest, r₁, r₂, hended⟩ := Joint.exists_ended (World.surroundings fun _ => {})
    (World.surroundings fun _ => {}) [.left, .right, .left, .right, .right, .left]
    ⟨(exportWorld pem).secrets,
      ⟨exportHook {} (exporting ""), { world := exportWorld pem }⟩,
      ⟨exportHook otherConfig (exporting "other.crt"), { world := exportWorld pem }⟩⟩
  have hapart := exporting_apart.apart (World.surroundings fun _ => {}).collaborators
    (World.surroundings fun _ => {}).collaborators
    (s := Session.beside { world := exportWorld pem } (exportWorld pem).secrets)
    (t := Session.beside { world := exportWorld pem } (exportWorld pem).secrets) rfl rfl
  obtain ⟨t₁, t₂, h₁, h₂, h₂₁, -⟩ := exportHook_isolated rfl hended (.inr hapart)
  rw [h₁] at hfirst
  rw [h₂] at hsecond
  cases hfirst
  cases hsecond
  exact ⟨pem, rest, _, t₁, rfl, hended, congrArg Prod.snd h₂₁⟩

end CertSync.Certificate
