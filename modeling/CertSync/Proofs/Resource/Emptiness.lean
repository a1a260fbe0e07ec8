import CertSync.Hook.Export
import CertSync.Hook.Import
import CertSync.Hook.Tags

/-!
# What is empty is absent

Some fields of a resource may be left out or left empty, to the same effect: the namespaces of
references, the authority, and the identifier of the certificate. So may the chain that an export
answers with. To clear a resource is to leave them out where they are empty; what is asked of a
resource is the same of the cleared one.
-/

namespace CertSync

theorem eq_of_nonEmpty {text : Option String} {value : String} (h : nonEmpty text = some value) :
    text = some value :=
  (Option.filter_eq_some_iff.mp h).1

theorem nonEmpty_nonEmpty (text : Option String) : nonEmpty (nonEmpty text) = nonEmpty text := by
  simp [nonEmpty, Option.filter_filter]

/-! ## References -/

namespace SecretRef

def cleared (ref : SecretRef) : SecretRef := { ref with ns := nonEmpty ref.ns }

theorem nsOr_cleared (ref : SecretRef) (fallback : String) :
    ref.cleared.nsOr fallback = ref.nsOr fallback := by
  rw [nsOr, cleared, nonEmpty_nonEmpty, nsOr]

theorem toText_cleared (ref : SecretRef) : ref.cleared.toText = ref.toText := by
  simp only [toText, cleared, nonEmpty_nonEmpty]

end SecretRef

/-! ## Answers to exports -/

namespace ExportedMaterial

def cleared (m : ExportedMaterial) : ExportedMaterial := { m with chain := nonEmpty m.chain }

theorem bundle_cleared (m : ExportedMaterial) : m.cleared.bundle = m.bundle := by
  rw [bundle, cleared, nonEmpty_nonEmpty, bundle]

end ExportedMaterial

def ExportAnswer.cleared : ExportAnswer → ExportAnswer
  | exported m => exported m.cleared
  | notFound => notFound

/-! ## Resources -/

namespace CertificateSpec

def cleared (s : CertificateSpec) : CertificateSpec := { s with
  certificateAuthorityArn := nonEmpty s.certificateAuthorityArn
  certificate := s.certificate.map SecretRef.cleared
  certificateChain := s.certificateChain.map SecretRef.cleared
  privateKey := s.privateKey.map SecretRef.cleared
  exportPassphrase := s.exportPassphrase.map SecretRef.cleared }

variable (s : CertificateSpec)

theorem importFields_cleared : s.cleared.importFields = s.importFields := by
  simp only [importFields, cleared, Option.isSome_map]

theorem requestFields_cleared : s.cleared.requestFields = s.requestFields := rfl

theorem isPublic_cleared : s.cleared.isPublic = s.isPublic := by
  rw [isPublic, cleared, nonEmpty_nonEmpty, isPublic]

end CertificateSpec

namespace CertificateStatus

def cleared (s : CertificateStatus) : CertificateStatus :=
  { s with certificateArn := nonEmpty s.certificateArn }

theorem cleared_of_arn {s : CertificateStatus} {arn : String}
    (h : nonEmpty s.certificateArn = some arn) : s.cleared = s := by
  rw [cleared, h, ← eq_of_nonEmpty h]

end CertificateStatus

namespace Certificate

/-- An absent status counts as an empty one. -/
def cleared (c : Certificate) : Certificate :=
  { c with spec := c.spec.cleared, status := some (c.status.getD {}).cleared }

variable (c : Certificate)

theorem arn?_eq : c.arn? = nonEmpty (c.status.getD {}).certificateArn := by
  rw [arn?]
  cases c.status <;> rfl

theorem arn?_cleared : c.cleared.arn? = c.arn? := by
  rw [arn?_eq, arn?_eq]
  exact nonEmpty_nonEmpty _

theorem syncedTags_cleared : c.cleared.syncedTags = c.syncedTags := by
  rw [syncedTags, syncedTags]
  cases h : c.status <;> simp [cleared, h, CertificateStatus.cleared]

theorem mode_cleared : c.cleared.mode = c.mode := by
  have hkey : c.spec.cleared.privateKey.isNone = c.spec.privateKey.isNone := Option.isNone_map
  simp only [mode, cleared, CertificateSpec.importFields_cleared,
    CertificateSpec.requestFields_cleared, hkey]
  rfl

theorem checkPublicOptions_cleared : c.cleared.checkPublicOptions = c.checkPublicOptions := by
  simp only [checkPublicOptions, cleared, CertificateSpec.isPublic_cleared]
  rfl

theorem checkExportOptions_cleared : c.cleared.checkExportOptions = c.checkExportOptions := by
  simp only [checkExportOptions, cleared, CertificateSpec.cleared, Option.isNone_map]

theorem validate_cleared : c.cleared.validate = c.validate := by
  have hcheck : c.cleared.check = c.check := by
    rw [check, check, mode_cleared, checkPublicOptions_cleared, checkExportOptions_cleared]
  rw [validate, hcheck]
  rfl

/-! ## Resources that differ in emptiness only -/

/-- The resources differ only in which of those fields are left out and which are left empty. -/
def Matches (c c' : Certificate) : Prop := c'.cleared = c.cleared

namespace Matches

variable {c c' : Certificate}

theorem congr {α : Type} {f : Certificate → α} (h : c.Matches c') (hf : ∀ c, f c.cleared = f c) :
    f c' = f c := by
  rw [← hf c', h, hf]

theorem metadata (h : c.Matches c') : c'.metadata = c.metadata :=
  h.congr fun _ => rfl

theorem nsOrDefault (h : c.Matches c') : c'.nsOrDefault = c.nsOrDefault := h.congr fun _ => rfl

theorem nameOrUnknown (h : c.Matches c') : c'.nameOrUnknown = c.nameOrUnknown :=
  h.congr fun _ => rfl

theorem resourceKey (h : c.Matches c') : c'.resourceKey = c.resourceKey := h.congr fun _ => rfl

theorem tags (h : c.Matches c') : c'.spec.tags = c.spec.tags :=
  h.congr (f := fun c => c.spec.tags) fun _ => rfl

theorem ref (h : c.Matches c') {f : CertificateSpec → Option SecretRef}
    (hf : ∀ s : CertificateSpec, f s.cleared = (f s).map SecretRef.cleared) :
    (f c.spec = none ∧ f c'.spec = none) ∨
      ∃ r r', f c.spec = some r ∧ f c'.spec = some r' ∧ r'.cleared = r.cleared := by
  have hsame : (f c'.spec).map SecretRef.cleared = (f c.spec).map SecretRef.cleared := by
    rw [← hf, ← hf]
    exact congrArg (fun c => f c.spec) h
  cases hleft : f c.spec with
  | none =>
    rw [hleft, Option.map_none, Option.map_eq_none_iff] at hsame
    exact .inl ⟨rfl, hsame⟩
  | some r =>
    rw [hleft, Option.map_some, Option.map_eq_some_iff] at hsame
    obtain ⟨r', hright, hcleared⟩ := hsame
    exact .inr ⟨r, r', rfl, hright, hcleared⟩

theorem status (h : c.Matches c') :
    (c'.status.getD {}).cleared = (c.status.getD {}).cleared :=
  Option.some.inj (congrArg (fun c => c.status) h)

theorem status_of_arn (h : c.Matches c') {arn : String} (harn : c.arn? = some arn) :
    c'.status.getD {} = c.status.getD {} := by
  have harn' : c'.arn? = some arn := (h.congr arn?_cleared).trans harn
  rw [arn?_eq] at harn harn'
  rw [← CertificateStatus.cleared_of_arn harn', ← CertificateStatus.cleared_of_arn harn]
  exact h.status

theorem withStatusTags (h : c.Matches c') {arn : String} (harn : c.arn? = some arn)
    (tags : List Tag) :
    c'.withStatusTags tags = { c.withStatusTags tags with spec := c'.spec } :=
  calc c'.withStatusTags tags
      = { c' with status := some { c'.status.getD {} with tags } } := rfl
    _ = { c with spec := c'.spec, status := some { c.status.getD {} with tags } } := by
      rw [h.status_of_arn harn, h.metadata]

theorem imported (h : c.Matches c') (arn : String) :
    c'.imported arn = { c.imported arn with spec := c'.spec } := by
  -- The identifier is set anew, so it does not matter that it was cleared.
  let merge (tags : List Tag) (status : CertificateStatus) : CertificateStatus := { status with
    certificateArn := some arn
    tags := if status.tags.isEmpty then tags else status.tags }
  have hmerge : merge c'.spec.tags (c'.status.getD {}) = merge c.spec.tags (c.status.getD {}) := by
    rw [h.tags]
    change merge c.spec.tags (c'.status.getD {}).cleared =
      merge c.spec.tags (c.status.getD {}).cleared
    rw [h.status]
  calc c'.imported arn
      = { c' with status := some (merge c'.spec.tags (c'.status.getD {})) } := rfl
    _ = { c with spec := c'.spec, status := some (merge c.spec.tags (c.status.getD {})) } := by
      rw [hmerge, h.metadata]

end Matches

end Certificate

end CertSync
