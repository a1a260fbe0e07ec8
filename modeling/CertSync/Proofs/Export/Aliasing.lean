import CertSync.Proofs.Export.Run
import CertSync.Proofs.Key.Sealed
import CertSync.Validation

/-!
# Entries that coincide

The certificate goes to an entry that the resource may name, the key to one that the configuration
names, and the passphrase comes from an entry of the resource's choice. Nothing that looks at the
resource before an export compares the three.
-/

namespace CertSync.Certificate

variable {σ : Type} {secrets : σ → SecretTable} {answer : σ → Bytes → ExportAnswer}
  {world : Collaborators σ} {config : Config} {c : Certificate} {dest : ExportDestination}
  {s t : Session σ}

/-- After an export the certificate with its chain, the private key and the passphrase are all to
be found just if no two different texts were meant for one entry. No other entry is changed. -/
theorem exportHook_holds_iff (hworld : ExportStore secrets answer world)
    (hok : Session.run world (exportHook config c) s = (.ok (.exported dest), t)) :
    ∃ d, c.Delivers config (answer s.world) (secrets s.world) d ∧ d.destination = dest ∧
      t.calls = s.calls ++ c.deliveryCalls d ∧
      (∀ entry : EntryId, entry ≠ dest.certificateEntry → entry ≠ dest.privateKeyEntry →
        (secrets t.world)[entry]? = (secrets s.world)[entry]?) ∧
      (d.HeldBy (secrets t.world) ↔ d.Consistent) := by
  obtain ⟨d, hd, rfl, hsecrets, -, hcalls, -⟩ := exportHook_exported hworld hok
  refine ⟨d, hd, rfl, hcalls, ?_, ?_⟩
  · intro entry hcert hkey
    rw [hsecrets]
    exact Delivery.getElem?_applyTo_of_ne hcert hkey
  · rw [hsecrets]
    exact Delivery.heldBy_applyTo_iff hd.passphrase

/-- A resource that leaves the entries to the configuration keeps them apart, and all three texts
are there in the end. -/
theorem exporting_holds :
    ∃ (pem : String) (t : Session World) (d : Delivery),
      Session.run (World.collaborators fun _ => {}) (exportHook {} (exporting ""))
        { world := exportWorld pem } = (.ok (.exported d.destination), t) ∧
      d.HeldBy t.world.secrets ∧ d.privateKey = emptyKey.toText := by
  obtain ⟨pem, hpem⟩ := exists_decryptKey_emptyKey (Bytes.ofText "pw")
  have hd := exporting_delivers "" hpem
  have hok := exportWorld_exported hd
  obtain ⟨d, hd', -, -, -, hheld⟩ := exportHook_holds_iff (World.exportStore _) hok
  cases hd'.unique hd
  have hkeys : "tls.crt" ≠ "tls.key" := by decide
  have hnames : "tls" ≠ "ps" := by decide
  refine ⟨pem, _, _, hok, hheld.mpr ⟨?_, ?_, ?_⟩, rfl⟩
  · intro h
    exact absurd (congrArg EntryId.key h) hkeys
  · intro h
    exact absurd (congrArg EntryId.name h) hnames
  · intro h
    exact absurd (congrArg EntryId.name h) hnames

/-- A resource that sends its certificate to the entry of the private key is accepted, but the
certificate is not where the export says it is. -/
theorem exporting_loses_certificate :
    ¬∀ (config : Config) (c : Certificate) (mode : AcquisitionMode) (world : Collaborators World)
      (s t : Session World) (dest : ExportDestination) (material : ExportedMaterial),
      c.validate = .ok mode → ExportStore World.secrets World.answers world →
      s.world.exportAnswer = .exported material →
      Session.run world (exportHook config c) s = (.ok (.exported dest), t) →
      t.world.secrets[dest.certificateEntry]? = 
        some (material.certificate ++ material.chain.getD "") := by
  intro hall
  obtain ⟨pem, hpem⟩ := exists_decryptKey_emptyKey (Bytes.ofText "pw")
  have hd := exporting_delivers "tls.key" hpem
  have hok := exportWorld_exported hd
  have hvalid : (exporting "tls.key").validate = .ok .requested := rfl
  have hbundle := hall {} (exporting "tls.key") .requested _ _ _ _ _ hvalid
    (World.exportStore fun _ => {}) rfl hok
  obtain ⟨d, hd', -, hsecrets, -⟩ := exportHook_exported (World.exportStore _) hok
  cases hd'.unique hd
  rw [hsecrets] at hbundle
  have hheld := (Delivery.getElem?_applyTo _ _ _).symm.trans hbundle
  have hkey : emptyKey.toText ≠ "CERT" ++ "CHAIN" := by decide +kernel
  exact hkey (Option.some.inj ((if_pos rfl).symm.trans hheld))

end CertSync.Certificate
