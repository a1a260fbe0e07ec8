import CertSync.Proofs.Json.Number
import CertSync.Proofs.Json.Record
import CertSync.Proofs.Tag.Lookup
import CertSync.Proofs.Time.RoundTrip
import CertSync.Resource.Printer
import CertSync.Resource.Reader

/-!
# The parts of a resource are read back

One round trip for each part, from labels and timestamps up to specs and statuses.
-/

namespace CertSync

open Json (Reads Numeric reads_text record?_object required optional defaulted)

/-! ## Labels and timestamps -/

theorem KeyAlgorithm.reads : Reads KeyAlgorithm.ofJson? KeyAlgorithm.toJson where
  decodes a := by cases a <;> rfl
  notNull _ := nofun
  numeric _ := .text _

theorem StatusKind.reads : Reads StatusKind.ofJson? StatusKind.toJson where
  decodes k := by cases k <;> rfl
  notNull _ := nofun
  numeric _ := .text _

theorem Instant.reads : Reads Instant.ofJson? Instant.toJson where
  decodes t := Instant.ofText?_toText t
  notNull _ := nofun
  numeric _ := .text _

/-! ## Records of a spec -/

theorem Tag.reads : Reads Tag.ofJson? Tag.toJson := by
  refine .record (by decide) (fun _ => rfl) (fun t => ?_) fun t => ?_
  · simp [Numeric.text, reads_text.numeric_ofOption]
  · simp [List.lookup_cons, required, reads_text.optional, Json.text?]

theorem SecretRef.reads : Reads SecretRef.ofJson? SecretRef.toJson := by
  refine .record (by decide) (fun _ => rfl) (fun ref => ?_) fun ref => ?_
  · simp [Numeric.text, reads_text.numeric_ofOption]
  · simp [List.lookup_cons, required, reads_text.optional, Json.text?]

theorem ExportTarget.reads : Reads ExportTarget.ofJson? ExportTarget.toJson := by
  refine .record (by decide) (fun _ => rfl) (fun target => ?_) fun target => ?_
  · simp [Numeric.text]
  · simp [List.lookup_cons, required, defaulted, Json.text?]

theorem DomainValidationOption.reads :
    Reads DomainValidationOption.ofJson? DomainValidationOption.toJson := by
  refine .record (by decide) (fun _ => rfl) (fun o => ?_) fun o => ?_
  · simp [Numeric.text]
  · simp [List.lookup_cons, required, Json.text?]

theorem CertificateOptions.reads : Reads CertificateOptions.ofJson? CertificateOptions.toJson := by
  refine .record (by decide) (fun _ => rfl) (fun o => ?_) fun o => ?_
  · simp [reads_text.numeric_ofOption]
  · simp [reads_text.optional]

theorem CertificateSpec.reads : Reads CertificateSpec.ofJson? CertificateSpec.toJson := by
  refine .record (by decide) (fun _ => rfl) (fun s => ?_) fun s => ?_
  · simp [reads_text.numeric_ofOption, reads_text.listOf.numeric,
      KeyAlgorithm.reads.numeric_ofOption, DomainValidationOption.reads.listOf.numeric,
      CertificateOptions.reads.numeric_ofOption, SecretRef.reads.numeric_ofOption,
      ExportTarget.reads.numeric_ofOption, Tag.reads.listOf.numeric]
  · simp [List.lookup_cons, defaulted, reads_text.optional, reads_text.listOf.decodes,
      KeyAlgorithm.reads.optional, DomainValidationOption.reads.listOf.decodes,
      CertificateOptions.reads.optional, SecretRef.reads.optional, ExportTarget.reads.optional,
      Tag.reads.listOf.decodes]

/-! ## Records of a status -/

theorem Condition.reads : Reads Condition.ofJson? Condition.toJson := by
  refine .record (by decide) (fun _ => rfl) (fun c => ?_) fun c => ?_
  · simp [Numeric.text, reads_text.numeric_ofOption]
  · simp [List.lookup_cons, required, reads_text.optional, Json.text?]

theorem CertificateStatus.reads : Reads CertificateStatus.ofJson? CertificateStatus.toJson := by
  refine .record (by decide) (fun _ => rfl) (fun s => ?_) fun s => ?_
  · simp [reads_text.numeric_ofOption, StatusKind.reads.numeric_ofOption,
      Instant.reads.numeric_ofOption, Tag.reads.listOf.numeric, Condition.reads.listOf.numeric]
  · simp [List.lookup_cons, defaulted, reads_text.optional, StatusKind.reads.optional,
      Instant.reads.optional, Tag.reads.listOf.decodes, Condition.reads.listOf.decodes]

end CertSync
