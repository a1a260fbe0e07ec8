import CertSync.Key.Decryption
import CertSync.Proofs.Key.Elliptic
import CertSync.Proofs.Key.Rsa
import CertSync.Proofs.Key.Sealed

/-!
# The form in which keys are written

Each family has one form. A key that is brought into it stays the same key of the same family, and
what is in that form already is written as it is.
-/

namespace CertSync

namespace KeyDocument

/-! ## Documents -/

/-- Both documents hold one key of a family. What stands on the largest curve is not looked into, so
there they have to be the same bytes. -/
def HoldSameKey (a b : KeyDocument) : KeyFamily → Prop
  | .rsa => ∃ key, RsaKey.ofDocument? a = some key ∧ RsaKey.ofDocument? b = some key
  | .elliptic .p256 =>
    ∃ key, EllipticKey.ofDer? .p256 a.key = some key ∧ EllipticKey.ofDer? .p256 b.key = some key
  | .elliptic .p384 =>
    ∃ key, EllipticKey.ofDer? .p384 a.key = some key ∧ EllipticKey.ofDer? .p384 b.key = some key
  | .elliptic .p521 => a.der = b.der

theorem family_of_rsa {document : KeyDocument} (h : document.algorithm = RsaKey.algorithm) :
    document.family = .ok .rsa := by
  rw [family, h]
  rfl

theorem family_of_elliptic (curve : Curve) (key : Bytes) :
    (KeyDocument.of (EllipticKey.algorithm curve) key).family = .ok (.elliptic curve) := by
  cases curve <;> rfl

/-- What a document becomes in the form of its family: a document that is read again, that holds the
same key of the same family, and that stays as it is. -/
structure IsNormalOf (normal document : KeyDocument) (found : KeyFamily) : Prop where
  read : ofDer? normal.der = some normal
  family : normal.family = .ok found
  sameKey : document.HoldSameKey normal found
  stays : normal.normalize? found = some normal

theorem isNormalOf_rsa {document normal : KeyDocument}
    (h : document.normalize? .rsa = some normal) : normal.IsNormalOf document .rsa := by
  obtain ⟨key, hkey, hnormal⟩ := Option.bind_eq_some_iff.mp h
  have hvalid : key.Valid := RsaKey.valid_of_ofDer? (RsaKey.ofDocument?_iff.mp hkey).2
  obtain ⟨hread, hagain⟩ := RsaKey.toDocument?_spec hvalid hnormal
  exact {
    read := hread
    family := family_of_rsa (RsaKey.ofDocument?_iff.mp hagain).1
    sameKey := ⟨key, hkey, hagain⟩
    stays := Option.bind_eq_some_iff.mpr ⟨key, hagain, hnormal⟩ }

theorem isNormalOf_elliptic {curve : Curve} {g : CurveGroup} (hsized : g.Sized)
    (hnormalize : ∀ d : KeyDocument, d.normalize? (.elliptic curve) =
      (EllipticKey.ofDer? g d.key).map (EllipticKey.toDocument curve g))
    (hsame : ∀ a b : KeyDocument, a.HoldSameKey b (.elliptic curve) =
      ∃ key, EllipticKey.ofDer? g a.key = some key ∧ EllipticKey.ofDer? g b.key = some key)
    {document normal : KeyDocument} (h : document.normalize? (.elliptic curve) = some normal) :
    normal.IsNormalOf document (.elliptic curve) := by
  rw [hnormalize] at h
  obtain ⟨key, hkey, rfl⟩ := Option.map_eq_some_iff.mp h
  obtain ⟨hleast, hmost⟩ := EllipticKey.bounds_of_ofDer? hkey
  obtain ⟨hread, hagain⟩ := EllipticKey.toDocument_spec curve hsized hleast hmost
  exact {
    read := hread
    family := family_of_elliptic curve _
    sameKey := by
      rw [hsame]
      exact ⟨key, hkey, hagain⟩
    stays := by
      rw [hnormalize, hagain]
      rfl }

theorem isNormalOf_normalize? {document normal : KeyDocument} {found : KeyFamily}
    (hread : ofDer? document.der = some document) (hfamily : document.family = .ok found)
    (h : document.normalize? found = some normal) : normal.IsNormalOf document found := by
  match found, h with
  | .rsa, h => exact isNormalOf_rsa h
  | .elliptic .p256, h =>
    exact isNormalOf_elliptic CurveGroup.sized_p256 (fun _ => rfl) (fun _ _ => rfl) h
  | .elliptic .p384, h =>
    exact isNormalOf_elliptic CurveGroup.sized_p384 (fun _ => rfl) (fun _ _ => rfl) h
  | .elliptic .p521, h =>
    obtain rfl := Option.some.inj h
    exact ⟨hread, hfamily, rfl, rfl⟩

/-! ## Texts -/

/-- The document in the clear that a text holds. -/
def ofText? (text : String) : Option KeyDocument := do
  let block ← Armour.ofText? (Bytes.ofText text)
  guard (block.label = label)
  ofDer? block.contents

theorem ofText?_block (document : KeyDocument) :
    Armour.ofText? (Bytes.ofText document.toText) = some ⟨label, document.der⟩ := by
  have hlabel : label ≠ "" := by decide
  have hdash : (0x2D : UInt8) ∉ Bytes.ofText label := by decide +kernel
  exact @Armour.ofText?_toText ⟨label, document.der⟩ hlabel hdash

theorem ofText?_toText {document : KeyDocument} (h : ofDer? document.der = some document) :
    ofText? document.toText = some document := by
  unfold ofText?
  rw [ofText?_block, Option.bind_eq_bind, Option.bind_some]
  simp [guard, h]

theorem encode_of_error {document : KeyDocument} {defect : KeyDefect}
    (h : document.family = .error defect) (expected : Option KeyFamily) :
    document.encode expected = .error defect := by
  unfold encode
  rw [h]
  rfl

theorem encode_none {document : KeyDocument} {found : KeyFamily} (h : document.family = .ok found) :
    document.encode none =
      match document.normalize? found with
      | some normal => .ok normal.toText
      | none => .error (.notEncodable found) := by
  unfold encode
  rw [h]
  change (match document.normalize? found with
    | some normal => pure normal.toText
    | none => throw (.notEncodable found) : Except KeyDefect String) = _
  cases document.normalize? found <;> rfl

theorem encode_some {document : KeyDocument} {found : KeyFamily} (h : document.family = .ok found)
    (g : KeyFamily) :
    document.encode (some g) =
      if g = found then document.encode none else .error (.otherFamily g found) := by
  unfold encode
  rw [h]
  by_cases hg : g = found
  · subst hg
    simp [bind, Except.bind]
  · simp [bind, Except.bind, hg, throw, throwThe, MonadExceptOf.throw]

theorem encode_ok {document : KeyDocument} {expected : Option KeyFamily} {text : String}
    (hread : ofDer? document.der = some document) (h : document.encode expected = .ok text) :
    ∃ found, ∃ normal : KeyDocument, document.family = .ok found ∧ normal.IsNormalOf document found ∧
      normal.toText = text := by
  cases hfamily : document.family with
  | error defect =>
    rw [encode_of_error hfamily] at h
    cases h
  | ok found =>
    have hnone : document.encode none = .ok text := by
      cases expected with
      | none => exact h
      | some g =>
        rw [encode_some hfamily] at h
        split at h
        · exact h
        · cases h
    rw [encode_none hfamily] at hnone
    cases hnormal : document.normalize? found with
    | none =>
      rw [hnormal] at hnone
      cases hnone
    | some normal =>
      rw [hnormal] at hnone
      exact ⟨found, normal, rfl, isNormalOf_normalize? hread hfamily hnormal,
        Except.ok.inj hnone⟩

theorem IsNormalOf.encode {normal document : KeyDocument} {found : KeyFamily}
    (h : normal.IsNormalOf document found) : normal.encode (some found) = .ok normal.toText := by
  rw [encode_some h.family, if_pos rfl, encode_none h.family, h.stays]

end KeyDocument

theorem ofDer?_of_openDocument? {container passphrase : Bytes} {document : KeyDocument}
    (h : openDocument? container passphrase = some document) :
    KeyDocument.ofDer? document.der = some document := by
  unfold openDocument? at h
  simp only [Option.bind_eq_bind, Option.bind_eq_some_iff] at h
  obtain ⟨_, _, bytes, _, hdocument⟩ := h
  exact KeyDocument.ofDer?_der hdocument

theorem eq_ok_of_mapError {ε δ α : Type} {result : Except ε α} {f : ε → δ} {a : α}
    (h : result.mapError f = .ok a) : result = .ok a := by
  cases result with
  | error e => cases h
  | ok b => exact congrArg _ (Except.ok.inj h)

theorem decryptKey_ok {pem passphrase : Bytes} {expected : Option KeyFamily} {text : String}
    (h : decryptKey pem passphrase expected = .ok text) :
    ∃ block document, Armour.ofText? pem = some block ∧
      openDocument? block.contents passphrase = some document ∧
      document.encode expected = .ok text := by
  unfold decryptKey at h
  split at h
  · cases h
  case h_2 block hblock =>
    split at h
    · cases h
    case h_2 document hdocument =>
      exact ⟨block, document, hblock, hdocument, eq_ok_of_mapError h⟩

/-- A key that could be decrypted is written as one block in the clear. What the block holds is a
document of the family of the one in the container, it holds the same key, and it is written as that
block again. -/
theorem decryptKey_normalForm {pem passphrase : Bytes} {expected : Option KeyFamily} {text : String}
    (h : decryptKey pem passphrase expected = .ok text) :
    ∃ block document found normal lines,
      Armour.ofText? pem = some block ∧
      openDocument? block.contents passphrase = some document ∧ document.family = .ok found ∧
      Armour.IsLaidOut ⟨"PRIVATE KEY", normal.der⟩ lines text ∧
      Armour.ofText? (Bytes.ofText text) = some ⟨"PRIVATE KEY", normal.der⟩ ∧
      KeyDocument.ofDer? normal.der = some normal ∧ normal.family = .ok found ∧
      document.HoldSameKey normal found ∧ normal.encode (some found) = .ok text := by
  obtain ⟨block, document, hblock, hdocument, hencode⟩ := decryptKey_ok h
  obtain ⟨found, normal, hfamily, hnormal, rfl⟩ :=
    KeyDocument.encode_ok (ofDer?_of_openDocument? hdocument) hencode
  exact ⟨block, document, found, normal, _, hblock, hdocument, hfamily,
    Armour.toText_isLaidOut ⟨KeyDocument.label, normal.der⟩, normal.ofText?_block, hnormal.read,
    hnormal.family, hnormal.sameKey, hnormal.encode⟩

/-- A key that came with attributes, and without the numbers that speed its use up. -/
def looseKey : KeyDocument where
  algorithm := RsaKey.algorithm
  key := [
    0x30, 0x1C, 0x02, 0x01, 0x00, 0x02, 0x02, 0x00, 0x8F, 0x02, 0x01, 0x07, 0x02, 0x01, 0x2B,
    0x02, 0x01, 0x0B, 0x02, 0x01, 0x0D, 0x02, 0x01, 0x00, 0x02, 0x01, 0x00, 0x02, 0x01, 0x00]
  der := [
    0x30, 0x34, 0x02, 0x01, 0x00,
    0x30, 0x0D, 0x06, 0x09, 0x2A, 0x86, 0x48, 0x86, 0xF7, 0x0D, 0x01, 0x01, 0x01, 0x05, 0x00,
    0x04, 0x1E,
    0x30, 0x1C, 0x02, 0x01, 0x00, 0x02, 0x02, 0x00, 0x8F, 0x02, 0x01, 0x07, 0x02, 0x01, 0x2B,
    0x02, 0x01, 0x0B, 0x02, 0x01, 0x0D, 0x02, 0x01, 0x00, 0x02, 0x01, 0x00, 0x02, 0x01, 0x00,
    0xA0, 0x00]

/-- The same key as it is written. -/
def tidyKey : KeyDocument where
  algorithm := RsaKey.algorithm
  key := [
    0x30, 0x1C, 0x02, 0x01, 0x00, 0x02, 0x02, 0x00, 0x8F, 0x02, 0x01, 0x07, 0x02, 0x01, 0x2B,
    0x02, 0x01, 0x0B, 0x02, 0x01, 0x0D, 0x02, 0x01, 0x03, 0x02, 0x01, 0x07, 0x02, 0x01, 0x06]
  der := [
    0x30, 0x32, 0x02, 0x01, 0x00,
    0x30, 0x0D, 0x06, 0x09, 0x2A, 0x86, 0x48, 0x86, 0xF7, 0x0D, 0x01, 0x01, 0x01, 0x05, 0x00,
    0x04, 0x1E,
    0x30, 0x1C, 0x02, 0x01, 0x00, 0x02, 0x02, 0x00, 0x8F, 0x02, 0x01, 0x07, 0x02, 0x01, 0x2B,
    0x02, 0x01, 0x0B, 0x02, 0x01, 0x0D, 0x02, 0x01, 0x03, 0x02, 0x01, 0x07, 0x02, 0x01, 0x06]

/-- A key of eleven times thirteen comes out of its container with the numbers that belong to it, and
that text is written again as it is. -/
theorem looseKey_normalForm :
    ∃ (pem : String) (document : KeyDocument),
      decryptKey (Bytes.ofText pem) (Bytes.ofText "pw") none = .ok tidyKey.toText ∧
      document.HoldSameKey tidyKey .rsa ∧ tidyKey.encode (some .rsa) = .ok tidyKey.toText := by
  have hread : KeyDocument.ofDer? looseKey.der = some looseKey := by decide +kernel
  have hnormal : looseKey.normalize? .rsa = some tidyKey := by decide +kernel
  have hencode : looseKey.encode none = .ok tidyKey.toText := by
    rw [KeyDocument.encode_none (KeyDocument.family_of_rsa rfl), hnormal]
  obtain ⟨pem, hpem⟩ := exists_decryptKey (Bytes.ofText "pw") hread (by decide) hencode
  obtain ⟨-, document, found, normal, -, -, -, -, -, hblock, hdocument, hfamily, hsame, hagain⟩ :=
    decryptKey_normalForm hpem
  -- The text settles the document in it.
  rw [tidyKey.ofText?_block, Option.some.injEq, Armour.mk.injEq] at hblock
  have htidy : KeyDocument.ofDer? tidyKey.der = some tidyKey := by decide +kernel
  rw [← hblock.2, htidy, Option.some.injEq] at hdocument
  subst hdocument
  cases hfamily.symm.trans (KeyDocument.family_of_rsa rfl)
  exact ⟨pem, document, hpem, hsame, hagain⟩

end CertSync
