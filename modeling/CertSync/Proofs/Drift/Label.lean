import CertSync.Proofs.Drift.Comparison
import CertSync.Proofs.Drift.Observation
import CertSync.Proofs.Json.RoundTrip
import CertSync.Proofs.Resource.Shape
import CertSync.Resource.Printer

/-!
# The label of a status

A status gets its kind from a label, that of the service or that of a document. The two are read in
two ways, which agree on every text. So a certificate counts as issued exactly when its label says
so, wherever the label was read.
-/

namespace CertSync

namespace StatusKind

/-! ## Labels and words -/

theorem ofLabel_label (k : StatusKind) : ofLabel k.label = k := by cases k <;> rfl

theorem label_ofLabel (s : String) : (ofLabel s).label = s ∨ ofLabel s = unknown := by
  unfold ofLabel
  split
  case h_8 => exact .inr rfl
  all_goals exact .inl rfl

theorem ofWord_eq (s : String) : ofWord s = (all.find? fun k => k.label = s).getD unknown := by
  simp only [ofWord, word_eq_label]

theorem ofWord_label (k : StatusKind) : ofWord k.label = k := by
  rw [ofWord_eq]
  cases k <;> rfl

theorem ofLabel_eq_iff {k : StatusKind} (hk : k ≠ unknown) {s : String} :
    ofLabel s = k ↔ s = k.label := by
  constructor
  · rintro rfl
    exact ((label_ofLabel s).resolve_right hk).symm
  · rintro rfl
    exact ofLabel_label k

theorem ofWord_eq_ofLabel (s : String) : ofWord s = ofLabel s := by
  rcases label_ofLabel s with hlisted | hunlisted
  · calc
      ofWord s = ofWord (ofLabel s).label := by rw [hlisted]
      _ = ofLabel s := ofWord_label _
  · -- What the search finds under an unlisted label is unknown, since its label is read as itself.
    rw [hunlisted, ofWord_eq]
    cases hfind : all.find? fun k => k.label = s with
    | none => rfl
    | some k =>
      have hlabel : k.label = s := by simpa using List.find?_some hfind
      rw [← hunlisted, ← hlabel, ofLabel_label]
      rfl

theorem ofJson?_eq (j : Json) : ofJson? j = j.label?.map ofLabel :=
  congrArg j.label?.map (funext ofWord_eq_ofLabel)

end StatusKind

/-! ## Labels in documents -/

theorem Json.optional_cases {α : Type} {decode : Json → Option α} {field : Option Json}
    {a : Option α} (h : Json.optional decode field = some a) :
    (field = none ∨ field = some .null) ∧ a = none ∨
      ∃ v b, field = some v ∧ decode v = some b ∧ a = some b := by
  cases field with
  | none => exact .inl ⟨.inl rfl, (Option.some.inj h).symm⟩
  | some v =>
    cases hv : v.isNull with
    | true =>
      cases v with
      | null => exact .inl ⟨.inr rfl, (Option.some.inj h).symm⟩
      | _ => cases hv
    | false =>
      rw [Json.optional_some hv, Option.map_eq_some_iff] at h
      obtain ⟨b, hb, hsome⟩ := h
      exact .inr ⟨v, b, rfl, hb, hsome.symm⟩

namespace CertificateStatus

/-- The label that a document gives for the kind of a status. -/
def label? (j : Json) : Option String := do
  let r ← j.record? names
  (← r "status").label?

theorem kind_of_ofJson? {j : Json} {status : CertificateStatus} (h : ofJson? j = some status) :
    status.kind = (label? j).map .ofLabel := by
  simp only [ofJson?, Option.bind_eq_bind, Option.bind_eq_some_iff] at h
  obtain ⟨r, hr, _, -, kind, hkind, _, -, _, -, _, -, _, -, _, -, _, -, hbuild⟩ := h
  cases hbuild
  rw [label?, hr]
  rcases Json.optional_cases hkind with ⟨hfield | hfield, hnone⟩ | ⟨v, k, hfield, hk, hsome⟩
  · simp [hnone, hfield]
  · simp [hnone, hfield, Json.label?]
  · rw [StatusKind.ofJson?_eq] at hk
    simp [hsome, hfield, hk]

end CertificateStatus

namespace Certificate

/-- The label that a document gives for the status of a certificate. -/
def statusLabel? (j : Json) : Option String := do
  let r ← j.record? names
  CertificateStatus.label? (← r "status")

theorem statusKind?_of_ofJson? {j : Json} {c : Certificate} (h : ofJson? j = some c) :
    c.statusKind? = (statusLabel? j).map .ofLabel := by
  obtain ⟨r, hr, -, -, hstatus⟩ := exists_record_of_ofJson? h
  rw [statusKind?, statusLabel?, hr]
  rcases Json.optional_cases hstatus with
    ⟨hfield | hfield, hnone⟩ | ⟨v, status, hfield, hread, hsome⟩
  · simp [hnone, hfield]
  · simp [hnone, hfield, CertificateStatus.label?, Json.record?]
  · simp [hsome, hfield, CertificateStatus.kind_of_ofJson? hread]

/-! ## Certificates that count as issued -/

def withStatusKind (kind : StatusKind) : Certificate → Certificate :=
  mapStatus fun status => { status with kind := some kind }

/-- How a certificate comes by its status, with the label that stands for it: from a document, as
the service reports it, or as a kind that has a label. The rest of it may change after that. -/
inductive Labelled : Certificate → String → Prop
  | read {c : Certificate} {j : Json} {label : String} (hread : ofJson? j = some c)
      (hlabel : statusLabel? j = some label) : Labelled c label
  | reported (c : Certificate) (label : String) :
      Labelled (c.withStatusKind (.ofLabel label)) label
  | chosen (c : Certificate) (kind : StatusKind) : Labelled (c.withStatusKind kind) kind.label
  | kept {c c' : Certificate} {label : String} (h : Labelled c label)
      (hkind : c'.statusKind? = c.statusKind?) : Labelled c' label

variable {c : Certificate}

theorem Labelled.statusKind? {label : String} (h : c.Labelled label) :
    c.statusKind? = some (.ofLabel label) := by
  induction h with
  | read hread hlabel => rw [statusKind?_of_ofJson? hread, hlabel, Option.map_some]
  | reported => rfl
  | chosen c kind => rw [StatusKind.ofLabel_label]; rfl
  | kept _ hkind ih => exact hkind.trans ih

theorem labelled_of_statusKind? {kind : StatusKind} (h : c.statusKind? = some kind) :
    c.Labelled kind.label :=
  .kept (.chosen c kind) h

theorem statusKind?_eq_issued_iff {label : String} (h : c.Labelled label) :
    c.statusKind? = some .issued ↔ label = "ISSUED" := by
  rw [h.statusKind?, Option.some_inj]
  exact StatusKind.ofLabel_eq_iff (by decide)

end Certificate

theorem Delta.compareIssuedAt_of_undated {a b : Certificate} (ha : a.issuedAt? = none)
    (delta : Delta) : delta.compareIssuedAt a b =
      if b.statusKind? = some .issued then delta.add issuedAtPath none (dated b.issuedAt?)
      else delta := by
  have hiff : a.Issues b ↔ b.statusKind? = some .issued := by
    simp [Certificate.issues_iff, ha]
  split_ifs with hissued
  · rw [compareIssuedAt_of_issues (hiff.mpr hissued), ha]
    rfl
  · exact compareIssuedAt_of_not_issues (mt hiff.mp hissued) delta

/-- A label means the same in a document as at the service, is written as it is read, and gives back
the kind that it stands for. So a certificate that had no time of issue counts as issued exactly if
the label of its status is `ISSUED`, however it came by that status. -/
theorem StatusKind.labels_agree :
    (∀ s, ofJson? (.text s) = some (ofLabel s) ∧
      (Json.ofText? (Json.text s).toText >>= ofJson?) = some (ofLabel s)) ∧
    (∀ k : StatusKind, k.toJson = .text k.label) ∧
    (∀ k : StatusKind, ofLabel k.label = k) ∧
    ∀ (delta : Delta) (a c : Certificate), a.issuedAt? = none →
      (∀ label, c.Labelled label → delta.compareIssuedAt a c =
        if label = "ISSUED" then delta.add issuedAtPath none (Delta.dated c.issuedAt?)
        else delta) ∧
      (¬c.Labelled "ISSUED" → delta.compareIssuedAt a c = delta) := by
  have hread (s : String) : ofJson? (.text s) = some (ofLabel s) := ofJson?_eq (.text s)
  refine ⟨fun s => ⟨hread s, ?_⟩, fun k => congrArg Json.text k.word_eq_label, ofLabel_label,
    fun delta a c ha => ⟨fun label hlabel => ?_, fun hnot => ?_⟩⟩
  · rw [Json.ofText?_toText (.text s)]
    exact hread s
  · rw [Delta.compareIssuedAt_of_undated ha]
    exact if_congr (Certificate.statusKind?_eq_issued_iff hlabel) rfl rfl
  · rw [Delta.compareIssuedAt_of_undated ha]
    exact if_neg fun hissued => hnot (Certificate.labelled_of_statusKind? hissued)

/-- A document that gives nothing but a label. -/
def labelDocument (label : Json) : Json := .object [
  ("metadata", .object []), ("spec", .object []), ("status", .object [("status", label)])]

/-- A label that stands alone in an object counts like its text, and one in other letters does
not. -/
theorem labelDocument_issued :
    ∃ c c', Certificate.ofJson? (labelDocument (.object [("ISSUED", .null)])) = some c ∧
      Certificate.ofJson? (labelDocument (.text "Issued")) = some c' ∧
      ({} : Delta).compareIssuedAt c' c = ⟨[⟨issuedAtPath, none, none⟩]⟩ ∧
      ({} : Delta).compareIssuedAt c c' = {} := by
  have hissued : Certificate.ofJson? (labelDocument (.object [("ISSUED", .null)])) =
    some (.ofKind .issued) := by decide +kernel
  have hnear : Certificate.ofJson? (labelDocument (.text "Issued")) =
    some (.ofKind .unknown) := by decide +kernel
  have hlabels := StatusKind.labels_agree.2.2.2 {}
  exact ⟨_, _, hissued, hnear, (hlabels _ _ rfl).1 "ISSUED" (.read hissued rfl),
    (hlabels _ _ rfl).1 "Issued" (.read hnear rfl)⟩

end CertSync
