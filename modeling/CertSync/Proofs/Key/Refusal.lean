import CertSync.Proofs.Key.NormalForm

/-!
# What is wrong with a key that is refused

Each error tells of one stage. There is no block, or what the block holds does not open to a
document, or the key in the document cannot be used.
-/

namespace CertSync

/-! ## The container -/

/-- Why there is no document in the contents of a block. -/
inductive KeyContainer.Shut (passphrase contents : Bytes) : Prop
  | container (h : KeyContainer.ofDer? contents = none)
  | passphrase {container : KeyContainer}
      (hcontainer : KeyContainer.ofDer? contents = some container)
      (h : container.open? passphrase = none)
  | plaintext {container : KeyContainer} {plaintext : Bytes}
      (hcontainer : KeyContainer.ofDer? contents = some container)
      (hopen : container.open? passphrase = some plaintext)
      (h : KeyDocument.ofDer? plaintext = none)

/-- There is a block with a container, which the passphrase opens to the document. -/
inductive KeyDocument.ComesFrom (pem passphrase : Bytes) (document : KeyDocument) : Prop
  | opened {block : Armour} {container : KeyContainer} {plaintext : Bytes}
      (hblock : Armour.ofText? pem = some block)
      (hcontainer : KeyContainer.ofDer? block.contents = some container)
      (hopen : container.open? passphrase = some plaintext)
      (hdocument : KeyDocument.ofDer? plaintext = some document)

theorem openDocument?_eq_none_iff {contents passphrase : Bytes} :
    openDocument? contents passphrase = none ↔ KeyContainer.Shut passphrase contents := by
  unfold openDocument?
  constructor
  · intro h
    cases hcontainer : KeyContainer.ofDer? contents with
    | none => exact .container hcontainer
    | some container =>
      rw [hcontainer, Option.bind_eq_bind, Option.bind_some] at h
      cases hopen : container.open? passphrase with
      | none => exact .passphrase hcontainer hopen
      | some plaintext =>
        rw [hopen] at h
        exact .plaintext hcontainer hopen h
  · rintro (hcontainer | ⟨hcontainer, hopen⟩ | ⟨hcontainer, hopen, hdocument⟩)
    · rw [hcontainer]
      rfl
    · rw [hcontainer, Option.bind_eq_bind, Option.bind_some, hopen]
      rfl
    · rw [hcontainer, Option.bind_eq_bind, Option.bind_some, hopen]
      exact hdocument

theorem KeyDocument.comesFrom_iff {pem passphrase : Bytes} {document : KeyDocument} :
    document.ComesFrom pem passphrase ↔ ∃ block, Armour.ofText? pem = some block ∧
      openDocument? block.contents passphrase = some document := by
  unfold openDocument?
  simp only [Option.bind_eq_bind, Option.bind_eq_some_iff]
  constructor
  · rintro ⟨hblock, hcontainer, hopen, hdocument⟩
    exact ⟨_, hblock, _, hcontainer, _, hopen, hdocument⟩
  · rintro ⟨_, hblock, _, hcontainer, _, hopen, hdocument⟩
    exact ⟨hblock, hcontainer, hopen, hdocument⟩

/-! ## The key -/

namespace KeyDocument

/-- The algorithm of a document and, on a curve, the name of that one. -/
inductive IsOf (document : KeyDocument) : KeyFamily → Prop
  | rsa (hid : document.algorithm.id = rsaEncryption) : IsOf document .rsa
  | elliptic {parameters : DerElement} {curve : Curve} (hid : document.algorithm.id = ecPublicKey)
      (hparameters : document.algorithm.parameters = some parameters)
      (hcurve : parameters.objectId? = some (curveId curve)) : IsOf document (.elliptic curve)

/-- The key cannot be taken as one of its family, or not be written as one. -/
inductive Rejected (document : KeyDocument) : KeyFamily → Prop
  | rsa (h : ∀ key, RsaKey.ofDocument? document = some key → key.toDocument? = none) :
      Rejected document .rsa
  | p256 (h : EllipticKey.ofDer? .p256 document.key = none) : Rejected document (.elliptic .p256)
  | p384 (h : EllipticKey.ofDer? .p384 document.key = none) : Rejected document (.elliptic .p384)

inductive Unusable (document : KeyDocument) (expected : Option KeyFamily) : KeyDefect → Prop
  | algorithm (hrsa : document.algorithm.id ≠ rsaEncryption)
      (helliptic : document.algorithm.id ≠ ecPublicKey) :
      Unusable document expected (.algorithm document.algorithm.id)
  | unnamedCurve (hid : document.algorithm.id = ecPublicKey)
      (h : ∀ parameters, document.algorithm.parameters = some parameters →
        parameters.objectId? = none) :
      Unusable document expected .unnamedCurve
  | curve {parameters : DerElement} {id : ObjectId} (hid : document.algorithm.id = ecPublicKey)
      (hparameters : document.algorithm.parameters = some parameters)
      (hcurve : parameters.objectId? = some id) (h : ∀ curve, id ≠ curveId curve) :
      Unusable document expected (.curve id)
  | otherFamily {other found : KeyFamily} (hfound : document.IsOf found)
      (hexpected : expected = some other) (h : other ≠ found) :
      Unusable document expected (.otherFamily other found)
  | rejected {found : KeyFamily} (hfound : document.IsOf found)
      (hexpected : ∀ g, expected = some g → g = found) (h : document.Rejected found) :
      Unusable document expected (.notEncodable found)

theorem curve?_curveId (curve : Curve) : curve? (curveId curve) = some curve := by
  cases curve <;> rfl

theorem eq_curveId_of_curve? {id : ObjectId} {curve : Curve} (h : curve? id = some curve) :
    id = curveId curve := by
  have hfound := List.find?_some (p := fun c => curveId c = id) h
  exact (of_decide_eq_true hfound).symm

theorem family_of_ecPublicKey {document : KeyDocument}
    (hid : document.algorithm.id = ecPublicKey) :
    document.family =
      match document.algorithm.parameters >>= DerElement.objectId? with
      | none => .error .unnamedCurve
      | some id =>
        match curve? id with
        | some curve => .ok (.elliptic curve)
        | none => .error (.curve id) := by
  have hrsa : document.algorithm.id ≠ rsaEncryption := hid ▸ by decide
  exact (if_neg hrsa).trans (if_neg (not_not.mpr hid))

theorem family_of_isOf {document : KeyDocument} {found : KeyFamily} (h : document.IsOf found) :
    document.family = .ok found := by
  cases h with
  | rsa hid => rw [family, if_pos hid]
  | elliptic hid hparameters hcurve =>
    simp only [family_of_ecPublicKey hid, hparameters, Option.bind_eq_bind, Option.bind_some,
      hcurve, curve?_curveId]

theorem isOf_or_unusable (document : KeyDocument) (expected : Option KeyFamily) :
    (∃ found, document.family = .ok found ∧ document.IsOf found) ∨
      ∃ defect, document.family = .error defect ∧ document.Unusable expected defect := by
  by_cases hrsa : document.algorithm.id = rsaEncryption
  · exact .inl ⟨_, family_of_isOf (.rsa hrsa), .rsa hrsa⟩
  by_cases hid : document.algorithm.id = ecPublicKey
  · have hfamily := family_of_ecPublicKey hid
    cases hnamed : document.algorithm.parameters >>= DerElement.objectId? with
    | none =>
      rw [hnamed] at hfamily
      exact .inr ⟨_, hfamily, .unnamedCurve hid (Option.bind_eq_none_iff.mp hnamed)⟩
    | some id =>
      simp only [hnamed] at hfamily
      obtain ⟨parameters, hparameters, hcurveId⟩ := Option.bind_eq_some_iff.mp hnamed
      cases hcurve : curve? id with
      | some curve =>
        rw [hcurve] at hfamily
        rw [eq_curveId_of_curve? hcurve] at hcurveId
        exact .inl ⟨_, hfamily, .elliptic hid hparameters hcurveId⟩
      | none =>
        rw [hcurve] at hfamily
        refine .inr ⟨_, hfamily, .curve hid hparameters hcurveId fun curve hknown => ?_⟩
        rw [hknown, curve?_curveId] at hcurve
        cases hcurve
  · refine .inr ⟨_, ?_, .algorithm hrsa hid⟩
    rw [family, if_neg hrsa, if_pos hid]

theorem normalize?_eq_none_iff {document : KeyDocument} {found : KeyFamily} :
    document.normalize? found = none ↔ document.Rejected found := by
  constructor
  · intro h
    match found, h with
    | .rsa, h => exact .rsa (Option.bind_eq_none_iff.mp h)
    | .elliptic .p256, h => exact .p256 (Option.map_eq_none_iff.mp h)
    | .elliptic .p384, h => exact .p384 (Option.map_eq_none_iff.mp h)
  · intro h
    cases h with
    | rsa h => exact Option.bind_eq_none_iff.mpr h
    | p256 h => exact Option.map_eq_none_iff.mpr h
    | p384 h => exact Option.map_eq_none_iff.mpr h

theorem encode_expected {document : KeyDocument} {found : KeyFamily} {expected : Option KeyFamily}
    (hfound : document.IsOf found) (hexpected : ∀ g, expected = some g → g = found) :
    document.encode expected = document.encode none := by
  cases expected with
  | none => rfl
  | some g => rw [encode_some (family_of_isOf hfound), if_pos (hexpected g rfl)]

theorem encode_rejected {document : KeyDocument} {found : KeyFamily}
    (hfound : document.IsOf found) (h : document.Rejected found) :
    document.encode none = .error (.notEncodable found) := by
  rw [encode_none (family_of_isOf hfound), normalize?_eq_none_iff.mpr h]

theorem unusable_of_encode {document : KeyDocument} {expected : Option KeyFamily}
    {defect : KeyDefect} (h : document.encode expected = .error defect) :
    document.Unusable expected defect := by
  rcases document.isOf_or_unusable expected with ⟨found, hfamily, hfound⟩ | ⟨_, hfamily, hunusable⟩
  · by_cases hexpected : ∀ g, expected = some g → g = found
    · rw [encode_expected hfound hexpected, encode_none hfamily] at h
      cases hnormal : document.normalize? found with
      | none =>
        rw [hnormal] at h
        cases h
        exact .rejected hfound hexpected (normalize?_eq_none_iff.mp hnormal)
      | some normal =>
        rw [hnormal] at h
        cases h
    · obtain ⟨other, hmissed⟩ := not_forall.mp hexpected
      obtain ⟨rfl, hother⟩ := Classical.not_imp.mp hmissed
      rw [encode_some hfamily, if_neg hother] at h
      cases h
      exact .otherFamily hfound rfl hother
  · rw [encode_of_error hfamily] at h
    cases h
    exact hunusable

theorem Unusable.encode {document : KeyDocument} {expected : Option KeyFamily} {defect : KeyDefect}
    (h : document.Unusable expected defect) : document.encode expected = .error defect := by
  cases h with
  | algorithm hrsa helliptic =>
    refine encode_of_error ?_ expected
    rw [family, if_neg hrsa, if_pos helliptic]
  | unnamedCurve hid h =>
    refine encode_of_error ?_ expected
    rw [family_of_ecPublicKey hid, Option.bind_eq_bind, Option.bind_eq_none_iff.mpr h]
  | curve hid hparameters hcurve h =>
    have hunknown : curve? _ = none :=
      Option.eq_none_iff_forall_ne_some.mpr fun curve hknown =>
        h curve (eq_curveId_of_curve? hknown)
    refine encode_of_error ?_ expected
    simp only [family_of_ecPublicKey hid, hparameters, Option.bind_eq_bind, Option.bind_some,
      hcurve, hunknown]
  | otherFamily hfound hexpected h =>
    rw [hexpected, encode_some (family_of_isOf hfound), if_neg h]
  | rejected hfound hexpected h =>
    rw [encode_expected hfound hexpected, encode_rejected hfound h]

end KeyDocument

/-! ## The stages of a decryption -/

section Stages

variable {pem passphrase : Bytes}

theorem decryptKey_of_noBlock (h : Armour.ofText? pem = none) (expected : Option KeyFamily) :
    decryptKey pem passphrase expected = .error .malformed := by
  rw [decryptKey, h]

theorem decryptKey_of_shut {block : Armour} (hblock : Armour.ofText? pem = some block)
    (h : KeyContainer.Shut passphrase block.contents) (expected : Option KeyFamily) :
    decryptKey pem passphrase expected = .error .decryptionFailed := by
  simp only [decryptKey, hblock, openDocument?_eq_none_iff.mpr h]

theorem decryptKey_of_comesFrom {document : KeyDocument} (h : document.ComesFrom pem passphrase)
    (expected : Option KeyFamily) :
    decryptKey pem passphrase expected = (document.encode expected).mapError .unsupported := by
  obtain ⟨block, hblock, hdocument⟩ := KeyDocument.comesFrom_iff.mp h
  simp only [decryptKey, hblock, hdocument]

theorem KeyDocument.ComesFrom.unsupported {document : KeyDocument} {expected : Option KeyFamily}
    {e : KeyError} (h : document.ComesFrom pem passphrase)
    (hresult : decryptKey pem passphrase expected = .error e) :
    ∃ defect, e = .unsupported defect ∧ document.Unusable expected defect := by
  rw [decryptKey_of_comesFrom h] at hresult
  cases hencode : document.encode expected with
  | error defect =>
    rw [hencode] at hresult
    cases hresult
    exact ⟨defect, rfl, KeyDocument.unusable_of_encode hencode⟩
  | ok text =>
    rw [hencode] at hresult
    cases hresult

theorem decryptKey_stages (pem passphrase : Bytes) :
    Armour.ofText? pem = none ∨
      (∃ block, Armour.ofText? pem = some block ∧ KeyContainer.Shut passphrase block.contents) ∨
      ∃ document : KeyDocument, document.ComesFrom pem passphrase := by
  cases hblock : Armour.ofText? pem with
  | none => exact .inl rfl
  | some block =>
    cases hdocument : openDocument? block.contents passphrase with
    | none => exact .inr (.inl ⟨block, rfl, openDocument?_eq_none_iff.mp hdocument⟩)
    | some document =>
      exact .inr (.inr ⟨document, KeyDocument.comesFrom_iff.mpr ⟨block, hblock, hdocument⟩⟩)

theorem decryptKey_malformed_iff {expected : Option KeyFamily} :
    decryptKey pem passphrase expected = .error .malformed ↔ Armour.ofText? pem = none := by
  refine ⟨fun hresult => ?_, fun h => decryptKey_of_noBlock h expected⟩
  rcases decryptKey_stages pem passphrase with h | ⟨block, hblock, hshut⟩ | ⟨document, hdocument⟩
  · exact h
  · rw [decryptKey_of_shut hblock hshut] at hresult
    cases hresult
  · obtain ⟨_, hcause, -⟩ := hdocument.unsupported hresult
    cases hcause

theorem decryptKey_failed_iff {expected : Option KeyFamily} :
    decryptKey pem passphrase expected = .error .decryptionFailed ↔
      ∃ block, Armour.ofText? pem = some block ∧
        KeyContainer.Shut passphrase block.contents := by
  refine ⟨fun hresult => ?_, fun ⟨_, hblock, hshut⟩ => decryptKey_of_shut hblock hshut expected⟩
  rcases decryptKey_stages pem passphrase with h | hshut | ⟨document, hdocument⟩
  · rw [decryptKey_of_noBlock h] at hresult
    cases hresult
  · exact hshut
  · obtain ⟨_, hcause, -⟩ := hdocument.unsupported hresult
    cases hcause

theorem decryptKey_unsupported_iff {expected : Option KeyFamily} {defect : KeyDefect} :
    decryptKey pem passphrase expected = .error (.unsupported defect) ↔
      ∃ document : KeyDocument, document.ComesFrom pem passphrase ∧
        document.Unusable expected defect := by
  constructor
  · intro hresult
    rcases decryptKey_stages pem passphrase with
      h | ⟨block, hblock, hshut⟩ | ⟨document, hdocument⟩
    · rw [decryptKey_of_noBlock h] at hresult
      cases hresult
    · rw [decryptKey_of_shut hblock hshut] at hresult
      cases hresult
    · obtain ⟨_, hcause, hunusable⟩ := hdocument.unsupported hresult
      cases hcause
      exact ⟨document, hdocument, hunusable⟩
  · rintro ⟨document, hdocument, hunusable⟩
    rw [decryptKey_of_comesFrom hdocument, hunusable.encode]
    rfl

end Stages

/-- An error tells which stage failed, and on what. A text without a block is malformed under every
passphrase, and what is wrong with a key that came out is never taken for a container that does not
open. -/
theorem decryptKey_error (pem passphrase : Bytes) (expected : Option KeyFamily) :
    (decryptKey pem passphrase expected = .error .malformed ↔ Armour.ofText? pem = none) ∧
      (decryptKey pem passphrase expected = .error .decryptionFailed ↔
        ∃ block, Armour.ofText? pem = some block ∧
          KeyContainer.Shut passphrase block.contents) ∧
      (∀ defect, decryptKey pem passphrase expected = .error (.unsupported defect) ↔
        ∃ document : KeyDocument, document.ComesFrom pem passphrase ∧
          document.Unusable expected defect) ∧
      (decryptKey pem passphrase expected = .error .malformed →
        ∀ other g, decryptKey pem other g = .error .malformed) ∧
      ∀ document : KeyDocument, document.ComesFrom pem passphrase →
        decryptKey pem passphrase expected ≠ .error .malformed ∧
          decryptKey pem passphrase expected ≠ .error .decryptionFailed := by
  refine ⟨decryptKey_malformed_iff, decryptKey_failed_iff, fun _ => decryptKey_unsupported_iff,
    fun hmalformed _ => decryptKey_of_noBlock (decryptKey_malformed_iff.mp hmalformed), ?_⟩
  intro document hdocument
  constructor <;>
    · intro hresult
      obtain ⟨_, hcause, -⟩ := hdocument.unsupported hresult
      cases hcause

end CertSync
