import CertSync.Proofs.Key.NormalForm

/-!
# The family that is expected

What family of key is expected takes no part in the decryption. It only decides whether the result
stands: a key of another family is refused, and what went wrong before the family was known stays
the same.
-/

namespace CertSync

/-- How far it is to the family of the key under an armour. -/
def detectFamily (pem passphrase : Bytes) : Except KeyError KeyFamily :=
  match Armour.ofText? pem with
  | none => .error .malformed
  | some block =>
    match openDocument? block.contents passphrase with
    | none => .error .decryptionFailed
    | some document => document.family.mapError .unsupported

/-- The family that a result tells of: that of the key in the text, or that of a key which could not
be written. -/
def resultFamily? : Except KeyError String → Option KeyFamily
  | .ok text => KeyDocument.ofText? text >>= fun key => key.family.toOption
  | .error (.unsupported (.notEncodable found)) => some found
  | .error _ => none

/-- What is left of a result when a family is expected. -/
def expecting (g : KeyFamily) (result : Except KeyError String) : Except KeyError String :=
  match resultFamily? result with
  | none => result
  | some found => if g = found then result else .error (.unsupported (.otherFamily g found))

/-! ## Before and after the family is known -/

theorem KeyDocument.not_notEncodable {document : KeyDocument} {defect : KeyDefect}
    (h : document.family = .error defect) (found : KeyFamily) : defect ≠ .notEncodable found := by
  unfold family at h
  rintro rfl
  split at h
  · cases h
  split at h
  · cases h
  split at h
  · cases h
  · split at h <;> cases h

theorem decryptKey_of_undetected {pem passphrase : Bytes} {e : KeyError}
    (h : detectFamily pem passphrase = .error e) :
    (∀ expected, decryptKey pem passphrase expected = .error e) ∧
      resultFamily? (.error e) = none := by
  unfold detectFamily at h
  unfold decryptKey
  cases hblock : Armour.ofText? pem with
  | none =>
    rw [hblock] at h
    cases h
    exact ⟨fun _ => rfl, rfl⟩
  | some block =>
    simp only [hblock] at h ⊢
    cases hdocument : openDocument? block.contents passphrase with
    | none =>
      rw [hdocument] at h
      cases h
      exact ⟨fun _ => rfl, rfl⟩
    | some document =>
      simp only [hdocument] at h ⊢
      cases hfamily : document.family with
      | ok found =>
        rw [hfamily] at h
        cases h
      | error defect =>
        rw [hfamily] at h
        cases h
        refine ⟨?_, ?_⟩
        · intro expected
          rw [KeyDocument.encode_of_error hfamily]
          rfl
        · have hdefect := KeyDocument.not_notEncodable hfamily
          cases defect <;> first | rfl | exact absurd rfl (hdefect _)

theorem decryptKey_of_detected {pem passphrase : Bytes} {found : KeyFamily}
    (h : detectFamily pem passphrase = .ok found) :
    ∃ document, KeyDocument.ofDer? document.der = some document ∧ document.family = .ok found ∧
      ∀ expected, decryptKey pem passphrase expected =
        (document.encode expected).mapError .unsupported := by
  unfold detectFamily at h
  unfold decryptKey
  cases hblock : Armour.ofText? pem with
  | none =>
    rw [hblock] at h
    cases h
  | some block =>
    simp only [hblock] at h ⊢
    cases hdocument : openDocument? block.contents passphrase with
    | none =>
      rw [hdocument] at h
      cases h
    | some document =>
      simp only [hdocument] at h ⊢
      exact ⟨document, ofDer?_of_openDocument? hdocument, eq_ok_of_mapError h, fun _ => rfl⟩

theorem resultFamily?_encode {document : KeyDocument} {found : KeyFamily}
    (hread : KeyDocument.ofDer? document.der = some document)
    (hfamily : document.family = .ok found) :
    resultFamily? ((document.encode none).mapError .unsupported) = some found := by
  rw [KeyDocument.encode_none hfamily]
  cases h : document.normalize? found with
  | none => rfl
  | some normal =>
    have hnormal := KeyDocument.isNormalOf_normalize? hread hfamily h
    change (KeyDocument.ofText? normal.toText >>= fun key => key.family.toOption) = some found
    rw [KeyDocument.ofText?_toText hnormal.read, Option.bind_eq_bind, Option.bind_some,
      hnormal.family]
    rfl

theorem encode_expecting {document : KeyDocument} {found : KeyFamily}
    (hread : KeyDocument.ofDer? document.der = some document)
    (hfamily : document.family = .ok found) (g : KeyFamily) :
    (document.encode (some g)).mapError .unsupported =
      expecting g ((document.encode none).mapError .unsupported) := by
  unfold expecting
  rw [resultFamily?_encode hread hfamily, KeyDocument.encode_some hfamily]
  by_cases hg : g = found
  · simp only [if_pos hg]
  · simp only [if_neg hg]
    rfl

theorem family_of_encode_some {document : KeyDocument} {g : KeyFamily} {text : String}
    (hread : KeyDocument.ofDer? document.der = some document)
    (h : document.encode (some g) = .ok text) :
    ∃ key, KeyDocument.ofText? text = some key ∧ key.family = .ok g := by
  obtain ⟨found, normal, hfamily, hnormal, rfl⟩ := KeyDocument.encode_ok hread h
  rw [KeyDocument.encode_some hfamily] at h
  split at h
  case isTrue hg => exact ⟨normal, KeyDocument.ofText?_toText hnormal.read, hg ▸ hnormal.family⟩
  case isFalse => cases h

/-- A result under an expectation is what the expectation leaves of the result without one. Where no
family is detected both fail in the same way. Where one is, expecting it changes nothing, and
expecting another one refuses the key. So a key that is given out is of the family expected. -/
theorem decryptKey_expecting (pem passphrase : Bytes) (g : KeyFamily) :
    decryptKey pem passphrase (some g) = expecting g (decryptKey pem passphrase none) ∧
      resultFamily? (decryptKey pem passphrase none) = (detectFamily pem passphrase).toOption ∧
      (∀ e, detectFamily pem passphrase = .error e →
        decryptKey pem passphrase none = .error e ∧
          decryptKey pem passphrase (some g) = .error e) ∧
      (∀ f, detectFamily pem passphrase = .ok f →
        decryptKey pem passphrase (some f) = decryptKey pem passphrase none ∧
          (g ≠ f →
            decryptKey pem passphrase (some g) = .error (.unsupported (.otherFamily g f)))) ∧
      ∀ text, decryptKey pem passphrase (some g) = .ok text →
        ∃ key, KeyDocument.ofText? text = some key ∧ key.family = .ok g := by
  cases h : detectFamily pem passphrase with
  | error e =>
    obtain ⟨herror, hresult⟩ := decryptKey_of_undetected h
    unfold expecting
    rw [herror, herror, hresult]
    refine ⟨rfl, rfl, ?_, ?_, ?_⟩
    · rintro _ ⟨⟩
      exact ⟨rfl, rfl⟩
    · rintro _ ⟨⟩
    · rintro _ ⟨⟩
  | ok found =>
    obtain ⟨document, hread, hfamily, hdecrypt⟩ := decryptKey_of_detected h
    refine ⟨?_, ?_, ?_, ?_, ?_⟩
    · rw [hdecrypt, hdecrypt]
      exact encode_expecting hread hfamily g
    · rw [hdecrypt]
      exact resultFamily?_encode hread hfamily
    · rintro _ ⟨⟩
    · rintro _ ⟨⟩
      rw [hdecrypt, hdecrypt, hdecrypt, KeyDocument.encode_some hfamily,
        KeyDocument.encode_some hfamily, if_pos rfl]
      refine ⟨rfl, ?_⟩
      intro hother
      rw [if_neg hother]
      rfl
    · intro text htext
      rw [hdecrypt] at htext
      exact family_of_encode_some hread (eq_ok_of_mapError htext)

end CertSync
