import CertSync.Proofs.Export.Run
import CertSync.Proofs.Key.Sealed

/-!
# Exports that are run again

An export that stopped halfway has left the store with one entry or both written. Unless the
passphrase was read from one of these, the runs before it do not show in what a later run leaves.
-/

namespace CertSync.Certificate

variable {σ : Type} {secrets : σ → SecretTable} {answer : σ → Bytes → ExportAnswer}
  {world : Collaborators σ} {config : Config} {c : Certificate} {dest : ExportDestination}
  {s t : Session σ}

/-- From a state, a run that is not disturbed exports to a destination and leaves the secrets. -/
def ExportsTo (secrets : σ → SecretTable) (answer : σ → Bytes → ExportAnswer) (config : Config)
    (c : Certificate) (start : σ) (dest : ExportDestination) (after : SecretTable) : Prop :=
  ∀ (world : Collaborators σ) (s : Session σ), ExportStore secrets answer world →
    Undisturbed secrets answer world → s.world = start → s.cancelled = false →
    ∃ t, Session.run world (exportHook config c) s = (.ok (.exported dest), t) ∧
      secrets t.world = after

theorem Delivers.exportsTo {start : σ} {d : Delivery}
    (hd : c.Delivers config (answer start) (secrets start) d) :
    ExportsTo secrets answer config c start d.destination (d.applyTo (secrets start)) := by
  rintro world s hworld hcalm rfl hs
  have hok : Session.run world (exportHook config c) s = (.ok (.exported d.destination), _) :=
    Prod.ext (exportHook_undisturbed hworld hcalm hs hd) rfl
  obtain ⟨e, he, -, hsecrets, -⟩ := exportHook_exported hworld hok
  refine ⟨_, hok, ?_⟩
  rw [hsecrets, he.unique hd]

theorem Delivers.within {response : Bytes → ExportAnswer} {table : SecretTable} {d : Delivery}
    (hd : c.Delivers config response table d) (hworld : ExportStore secrets answer world) :
    Within world (Untouched secrets answer d.destination) (exportHook config c) := by
  obtain ⟨target, htarget, -, hdest⟩ := hd.destination
  rw [hdest.eq]
  exact exportHook_untouched hworld htarget

/-- However often it was cut short before, an export that succeeds leaves what one run leaves that
is not disturbed, and leaves it again when it is repeated; but for a passphrase that is read from
an entry the export writes. -/
theorem exportHook_replay {start : σ}
    (hruns : Reruns (ExportStore secrets answer) (exportHook config c) start s.world)
    (hworld : ExportStore secrets answer world)
    (hok : Session.run world (exportHook config c) s = (.ok (.exported dest), t)) :
    (∃ ref, c.spec.exportPassphrase = some ref ∧
      (ref.entry c.nsOrDefault = dest.certificateEntry ∨
        ref.entry c.nsOrDefault = dest.privateKeyEntry)) ∨
    ExportsTo secrets answer config c start dest (secrets t.world) ∧
      ExportsTo secrets answer config c t.world dest (secrets t.world) ∧
      ∀ (again : Collaborators σ) (s' t' : Session σ) (dest' : ExportDestination),
        ExportStore secrets answer again → s'.world = t.world →
        Session.run again (exportHook config c) s' = (.ok (.exported dest'), t') →
        dest' = dest ∧ secrets t'.world = secrets t.world := by
  obtain ⟨d, hd, rfl, hsecrets, -, -⟩ := exportHook_exported hworld hok
  by_cases hcert : d.passphraseEntry = d.destination.certificateEntry
  · exact .inl ⟨_, hd.reference, .inl (hd.passphraseEntry ▸ hcert)⟩
  by_cases hkey : d.passphraseEntry = d.destination.privateKeyEntry
  · exact .inl ⟨_, hd.reference, .inr (hd.passphraseEntry ▸ hkey)⟩
  right
  -- No run touched the passphrase, so the delivery is the same at the start and in the end.
  have hbefore := hruns.within fun _ hrerun => hd.within hrerun
  have hafter := hd.within hworld s
  rw [hok] at hafter
  have hstart := (delivers_iff_of_untouched hbefore hcert hkey).mpr hd
  have hend := (delivers_iff_of_untouched hafter hcert hkey).mp hd
  have hsame : d.applyTo (secrets start) = secrets t.world := by
    rw [hsecrets]
    exact Delivery.applyTo_congr fun entry hc hk => (hbefore.2 entry hc hk).symm
  have hagain : d.applyTo (secrets t.world) = secrets t.world := by
    rw [hsecrets, Delivery.applyTo_applyTo]
  refine ⟨hsame ▸ hstart.exportsTo, ?_, ?_⟩
  · have hexports := hend.exportsTo
    rwa [hagain] at hexports
  · intro again s' t' dest' hagain' hs' hok'
    obtain ⟨e, he, rfl, hsecrets', -, -⟩ := exportHook_exported hagain' hok'
    rw [hs'] at he hsecrets'
    cases he.unique hend
    exact ⟨rfl, hsecrets'.trans hagain⟩

def withoutKey : Call → Disturbance
  | .secret (.write _ _ "tls.key" _) => { failure := some ⟨"quota exceeded", []⟩ }
  | _ => {}

theorem withoutKey_unanswered (ns name value : String) :
    ¬Answered (World.collaborators withoutKey) (.secret (.write ns name "tls.key" value)) := by
  rintro ⟨w, a, h⟩
  rw [World.collaborators_of_failure rfl rfl] at h
  cases h

/-- An export that could not write its key has failed, but that does not show after the next. -/
theorem exporting_replayed :
    ∃ (pem : String) (failed : Except HookError ExportOutcome × Session World)
      (t once : Session World) (dest : ExportDestination),
      failed = Session.run (World.collaborators withoutKey) (exportHook {} (exporting ""))
        { world := exportWorld pem } ∧
      (∀ other, failed.1 ≠ .ok (.exported other)) ∧
      Session.run (World.collaborators fun _ => {}) (exportHook {} (exporting ""))
        { world := failed.2.world } = (.ok (.exported dest), t) ∧
      Session.run (World.collaborators fun _ => {}) (exportHook {} (exporting ""))
        { world := exportWorld pem } = (.ok (.exported dest), once) ∧
      t.world.secrets = once.world.secrets := by
  obtain ⟨pem, hpem⟩ := exists_decryptKey_emptyKey (Bytes.ofText "pw")
  obtain ⟨failed, hfailed⟩ : ∃ failed, failed = Session.run (World.collaborators withoutKey)
    (exportHook {} (exporting "")) { world := exportWorld pem } := ⟨_, rfl⟩
  have hd := exporting_delivers "" hpem
  have hnames : "ps" ≠ "tls" := by decide
  have huntouched := hd.within (World.exportStore withoutKey) { world := exportWorld pem }
  rw [← hfailed] at huntouched
  have hd' := (delivers_iff_of_untouched huntouched
    (fun h => absurd (congrArg EntryId.name h) hnames)
    (fun h => absurd (congrArg EntryId.name h) hnames)).mp hd
  obtain ⟨t, hok, -⟩ := hd'.exportsTo _ { world := failed.2.world } (World.exportStore _)
    World.undisturbed rfl rfl
  have hunwritten : ∀ other, failed.1 ≠ .ok (.exported other) := by
    intro other hother
    have hrun := hfailed.symm.trans (Prod.ext hother rfl : failed = (.ok (.exported other), _))
    obtain ⟨e, he, -, -, -, -, hanswered⟩ := exportHook_exported (World.exportStore _) hrun
    cases he.unique hd
    exact withoutKey_unanswered _ _ _ (hanswered _ (write_privateKey_mem _ _))
  have hruns : Reruns (ExportStore World.secrets World.answers) (exportHook {} (exporting ""))
      (exportWorld pem) failed.2.world :=
    .single ⟨_, World.exportStore withoutKey, _, rfl, congrArg (·.2.world) hfailed.symm⟩
  have hreplay := exportHook_replay (s := { world := failed.2.world }) hruns (World.exportStore _)
    hok
  rcases hreplay with ⟨ref, href, h | h⟩ | ⟨hstart, -⟩
  · cases href
    exact absurd (congrArg EntryId.name h) hnames
  · cases href
    exact absurd (congrArg EntryId.name h) hnames
  · obtain ⟨once, honce, hsecrets⟩ := hstart _ { world := exportWorld pem } (World.exportStore _)
      World.undisturbed rfl rfl
    exact ⟨pem, failed, t, once, _, hfailed, hunwritten, hok, honce, hsecrets.symm⟩

end CertSync.Certificate
