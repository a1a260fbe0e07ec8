import CertSync.Proofs.Export.Run
import CertSync.Proofs.Session.Confinement
import CertSync.Proofs.Sharing.Surroundings

/-!
# What an export touches

The fields of a resource and the configuration name the entry that an export may read and those that
it may write. Its errors are all its own.
-/

namespace CertSync

namespace Call

/-- The call reads and writes nothing but these entries. -/
def Within (reads writes : List EntryId) (c : Call) : Prop :=
  (∀ entry, c.entry? = some entry → entry ∈ reads ++ writes) ∧
    ∀ entry, c.written? = some entry → entry ∈ writes

variable {reads writes : List EntryId}

theorem Within.service (c : ServiceCall) : Within reads writes (.service c) :=
  ⟨nofun, nofun⟩

theorem Within.resolve {ns : String} {ref : SecretRef} (h : ref.entry ns ∈ reads) :
    Within reads writes (.secret (.resolve ns ref)) := by
  refine ⟨?_, nofun⟩
  rintro entry ⟨⟩
  exact List.mem_append_left _ h

theorem Within.write {ns name key : String} (value : String) (h : ⟨ns, name, key⟩ ∈ writes) :
    Within reads writes (.secret (.write ns name key value)) := by
  refine ⟨?_, ?_⟩
  · rintro entry ⟨⟩
    exact List.mem_append_right _ h
  · rintro entry ⟨⟩
    exact h

end Call

/-- The site that an error names. -/
def HookError.site (e : HookError) : Hook.Site := ⟨e.operation, e.resource⟩

namespace Certificate

variable {config : Config} {c : Certificate}

def exportReads (c : Certificate) : List EntryId :=
  (c.spec.exportPassphrase.map fun ref => ref.entry c.nsOrDefault).toList

def exportWrites (config : Config) (c : Certificate) : List EntryId :=
  match c.spec.exportTo with
  | none => []
  | some target =>
    let dest := c.exportDestination config target
    [dest.certificateEntry, dest.privateKeyEntry]

/-- A hook that does what an export may do. -/
abbrev ConfinedToExport (config : Config) (c : Certificate) {α : Type} (hook : Hook α) : Prop :=
  hook.Confined (Call.Within c.exportReads (c.exportWrites config)) fun e => e.site = c.exportSite

theorem exportPassphrase_confined {ref : SecretRef} (href : c.spec.exportPassphrase = some ref) :
    c.ConfinedToExport config (c.exportPassphrase ref) := by
  have hread : ref.entry c.nsOrDefault ∈ c.exportReads := by simp [exportReads, href]
  unfold exportPassphrase
  refine .bind (.resolve (.resolve hread) fun _ => rfl) fun value => ?_
  cases value.isEmpty with
  | true => exact .bind (.throw rfl) fun _ => .pure _
  | false => exact .pure _

theorem deliver_confined {target : ExportTarget} (htarget : c.spec.exportTo = some target)
    (passphrase : String) (material : ExportedMaterial) :
    c.ConfinedToExport config
      (c.deliver passphrase (c.exportDestination config target) material) := by
  have hcertificate : (c.exportDestination config target).certificateEntry ∈
      c.exportWrites config := by simp [exportWrites, htarget]
  have hkey : (c.exportDestination config target).privateKeyEntry ∈
      c.exportWrites config := by simp [exportWrites, htarget]
  unfold deliver
  refine .bind (.write (.write _ hcertificate) fun _ => rfl) fun _ => .bind (.log _) fun _ => ?_
  cases hread : decryptKey (Bytes.ofText material.privateKey) (Bytes.ofText passphrase)
    (c.spec.keyAlgorithm.map KeyAlgorithm.family) with
  | error error =>
    simp only [hread]
    exact .throw rfl
  | ok privateKey =>
    simp only [hread]
    exact .write (.write _ hkey) fun _ => rfl

theorem exportMaterial_confined {target : ExportTarget} {ref : SecretRef}
    (htarget : c.spec.exportTo = some target) (href : c.spec.exportPassphrase = some ref)
    (arn : String) :
    c.ConfinedToExport config (c.exportMaterial arn ref (c.exportDestination config target)) := by
  unfold exportMaterial
  refine .bind (exportPassphrase_confined href) fun passphrase => ?_
  refine .bind (.service (.service _) fun _ => rfl) fun answer => ?_
  cases answer with
  | notFound => exact .bind (.log _) fun _ => .pure _
  | exported material =>
    exact .bind (deliver_confined htarget _ _) fun _ => .bind (.log _) fun _ => .pure _

theorem exportHook_confined (config : Config) (c : Certificate) :
    c.ConfinedToExport config (exportHook config c) := by
  rcases exportHook_cases config c with h | ⟨cause, h⟩ |
    ⟨target, ref, arn, htarget, href, -, -, h⟩ <;> rw [h]
  · exact .pure _
  · exact .throw rfl
  · exact .bind (.log _) fun _ => exportMaterial_confined htarget href _

end Certificate

end CertSync
