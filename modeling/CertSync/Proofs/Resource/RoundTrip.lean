import CertSync.Proofs.Json.RoundTrip
import CertSync.Proofs.Resource.Record

/-!
# Resources survive printing and reading

Metadata is read more loosely than the parts of a spec, but each field that is written stands there
once. So a resource that is printed and read is the same resource, whatever document it came from.
-/

namespace CertSync

open Json (Reads Numeric reads_text)

/-! ## Metadata -/

theorem TextMap.reads : Reads TextMap.ofJson? TextMap.toJson := reads_text.map fun _ _ => rfl

theorem generation_reads : Reads generation? fun n : Int64 => Json.ofInt n.toInt where
  decodes n := by
    have hrange : Int64.minValue.toInt ≤ n.toInt ∧ n.toInt ≤ Int64.maxValue.toInt :=
      ⟨n.minValue_le_toInt, n.toInt_le⟩
    simp only [generation?, Json.integer?_ofInt, Option.bind_eq_bind, Option.bind_some, guard,
      if_pos hrange, Int64.ofInt_toInt]
    rfl
  notNull _ := nofun
  numeric n := .number (Json.isNumber_toString n.toInt)

variable {α : Type} {decode : Json → Option α} {encode : α → Json}

theorem filter_present (name other : String) (encode : α → Json) (field : Option α) :
    ((present other encode field).filter fun f => f.1 = name) =
      if other = name then present other encode field else [] := by
  cases field with
  | none => simp [present]
  | some a => split_ifs with h <;> simp [present, h]

theorem numeric_present (h : Reads decode encode) (name : String) (field : Option α) :
    ∀ f ∈ present name encode field, Numeric f.2 := by
  cases field with
  | none => exact nofun
  | some a => exact List.forall_mem_singleton.mpr (h.numeric a)

theorem last?_present (h : Reads decode encode) (field : Option α) {name : String}
    {fields : List (String × Json)}
    (hfields : (fields.filter fun f => f.1 = name) = present name encode field) :
    Json.last? decode fields name = some field := by
  rw [Json.last?, hfields]
  cases field with
  | none => rfl
  | some a =>
    have hdecode : Json.optional decode (some (encode a)) = some (some a) := h.optional (some a)
    have hvalues : (present name encode (some a)).mapM (fun f => Json.optional decode f.2) =
        some [some a] := by
      simp [present, hdecode]
    rw [hvalues]
    rfl

theorem Metadata.reads : Reads Metadata.ofJson? Metadata.toJson where
  decodes m := by
    simp only [ofJson?, toJson, Json.object?, Option.bind_eq_bind, Option.bind_some]
    rw [last?_present reads_text m.name (by simp [filter_present]),
      last?_present reads_text m.ns (by simp [filter_present]),
      last?_present TextMap.reads m.labels (by simp [filter_present]),
      last?_present TextMap.reads m.annotations (by simp [filter_present]),
      last?_present generation_reads m.generation (by simp [filter_present]),
      last?_present reads_text.listOf m.finalizers (by simp [filter_present])]
    rfl
  notNull _ := nofun
  numeric m := by
    simp only [toJson]
    refine .object ?_
    simp only [List.forall_mem_append]
    exact ⟨⟨⟨⟨⟨numeric_present reads_text _ _, numeric_present reads_text _ _⟩,
      numeric_present TextMap.reads _ _⟩, numeric_present TextMap.reads _ _⟩,
      numeric_present generation_reads _ _⟩, numeric_present reads_text.listOf _ _⟩

/-! ## Certificates -/

namespace Certificate

theorem record?_toJson (c : Certificate) :
    c.toJson.record? names = some fun name =>
      ([("metadata", c.metadata.toJson), ("spec", c.spec.toJson)] ++
        present "status" CertificateStatus.toJson c.status).lookup name := by
  obtain ⟨metadata, spec, status⟩ := c
  cases status with
  | none =>
    have hnodup : ["metadata", "spec"].Nodup := by decide
    exact Json.record?_object rfl hnodup
  | some status =>
    have hnodup : ["metadata", "spec", "status"].Nodup := by decide
    exact Json.record?_object rfl hnodup

theorem lookup_status (c : Certificate) :
    Json.optional CertificateStatus.ofJson?
        (([("metadata", c.metadata.toJson), ("spec", c.spec.toJson)] ++
          present "status" CertificateStatus.toJson c.status).lookup "status") = some c.status := by
  cases hstatus : c.status with
  | none => rfl
  | some status =>
    exact CertificateStatus.reads.optional (some status)

theorem reads : Reads ofJson? toJson where
  decodes c := by
    have hmetadata := Metadata.reads.decodes c.metadata
    have hspec := CertificateSpec.reads.decodes c.spec
    have hlist : c.toJson.list? = none := rfl
    simp only [ofJson?, hlist, record?_toJson, lookup_status, Option.bind_eq_bind, Option.bind_some]
    simp [List.lookup_cons, Json.required, hmetadata, hspec]
  notNull _ := nofun
  numeric c := by
    refine .object (List.forall_mem_append.mpr ⟨?_, numeric_present CertificateStatus.reads _ _⟩)
    simp [Numeric.text, Metadata.reads.numeric, CertificateSpec.reads.numeric]

theorem ofText?_toText (c : Certificate) : ofText? c.toText = some c := by
  rw [ofText?, toText, Json.ofText?_toText (reads.numeric c)]
  exact reads.decodes c

end Certificate

end CertSync
