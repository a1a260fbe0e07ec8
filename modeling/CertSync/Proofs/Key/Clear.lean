import CertSync.Proofs.Der.Canonical
import CertSync.Proofs.Key.NormalForm

/-!
# A key in the clear is not accepted

What armour says about its contents does not count. A document in the clear and a container are both
sequences, but the one starts with a number and the other with a sequence, so no bytes are both.
-/

namespace CertSync

/-! ## Documents in the clear -/

/-- Bytes that write a private key in the clear: a version, the algorithm that the key is for, the
key, and whatever may follow, such as attributes and a public key. -/
inductive KeyDocument.IsClear : Bytes → Prop
  | written (version : Nat) (algorithm : AlgorithmId) (key : Bytes) (fields : List DerElement) :
    IsClear
      (DerElement.sequence (.natural version :: algorithm.toDer :: .octets key :: fields)).write

theorem ObjectId.bytes_of_ofBytes? {bytes : Bytes} {id : ObjectId} (h : ofBytes? bytes = some id) :
    id.bytes = bytes := by
  unfold ofBytes? at h
  split at h
  · cases h
    rfl
  · cases h

theorem DerElement.eq_of_objectId? {e : DerElement} {id : ObjectId} (h : e.objectId? = some id) :
    e = objectId id := by
  obtain ⟨contents, hcontents, hid⟩ := Option.bind_eq_some_iff.mp h
  rw [eq_of_contentsOf? hcontents, objectId, ObjectId.bytes_of_ofBytes? hid]

theorem AlgorithmId.eq_of_ofDer? {e : DerElement} {a : AlgorithmId} (h : ofDer? e = some a) :
    e = a.toDer := by
  unfold ofDer? at h
  obtain ⟨parts, hparts, h⟩ := Option.bind_eq_some_iff.mp h
  rw [DerElement.eq_of_sequence? hparts]
  split at h
  · obtain ⟨id, hid, ha⟩ := Option.bind_eq_some_iff.mp h
    cases ha
    rw [DerElement.eq_of_objectId? hid]
    rfl
  · obtain ⟨id, hid, ha⟩ := Option.bind_eq_some_iff.mp h
    cases ha
    rw [DerElement.eq_of_objectId? hid]
    rfl
  · cases h

theorem KeyDocument.isClear_of_ofDer? {bytes : Bytes} {document : KeyDocument}
    (h : ofDer? bytes = some document) : IsClear bytes := by
  unfold ofDer? at h
  obtain ⟨whole, hwhole, h⟩ := Option.bind_eq_some_iff.mp h
  obtain ⟨parts, hparts, h⟩ := Option.bind_eq_some_iff.mp h
  split at h
  · next versionPart algorithmPart keyPart fields =>
    obtain ⟨version, hversion, h⟩ := Option.bind_eq_some_iff.mp h
    obtain ⟨algorithm, halgorithm, h⟩ := Option.bind_eq_some_iff.mp h
    obtain ⟨key, hkey, -⟩ := Option.bind_eq_some_iff.mp h
    obtain ⟨number, hnumber, -⟩ := Option.bind_eq_some_iff.mp hversion
    rw [(DerElement.readOne?_eq_some_iff.mp hwhole).2, DerElement.eq_of_sequence? hparts,
      DerElement.eq_of_natural? hnumber, AlgorithmId.eq_of_ofDer? halgorithm,
      DerElement.eq_of_contentsOf? hkey]
    exact .written number algorithm key fields
  · cases h

/-! ## Containers -/

theorem KeyContainer.eq_of_ofDer? {bytes : Bytes} {container : KeyContainer}
    (h : ofDer? bytes = some container) :
    ∃ scheme rest, (DerElement.sequence (.sequence scheme :: rest)).IsReadable ∧
      bytes = (DerElement.sequence (.sequence scheme :: rest)).write := by
  unfold ofDer? at h
  obtain ⟨whole, hwhole, h⟩ := Option.bind_eq_some_iff.mp h
  obtain ⟨parts, hparts, h⟩ := Option.bind_eq_some_iff.mp h
  split at h
  · next scheme data =>
    obtain ⟨algorithm, halgorithm, -⟩ := Option.bind_eq_some_iff.mp h
    have hwhole := DerElement.readOne?_eq_some_iff.mp hwhole
    rw [DerElement.eq_of_sequence? hparts, AlgorithmId.eq_of_ofDer? halgorithm] at hwhole
    exact ⟨_, [data], hwhole⟩
  · cases h

theorem KeyContainer.ofDer?_of_isClear {bytes : Bytes} (h : KeyDocument.IsClear bytes) :
    ofDer? bytes = none := by
  cases h with
  | written version algorithm key fields =>
    by_contra hsome
    obtain ⟨container, hcontainer⟩ := Option.ne_none_iff_exists'.mp hsome
    obtain ⟨scheme, rest, hreadable, hwritten⟩ := eq_of_ofDer? hcontainer
    have hsame := DerElement.eq_of_write_eq hreadable hwritten.symm
    have hfirst := congrArg (fun e => e.contents.head?) hsame
    simp [DerElement.sequence, DerElement.writeAll, DerElement.write, DerElement.natural] at hfirst

theorem openDocument?_of_isClear {contents : Bytes} (h : KeyDocument.IsClear contents)
    (passphrase : Bytes) : openDocument? contents passphrase = none := by
  rw [openDocument?, KeyContainer.ofDer?_of_isClear h]
  rfl

/-! ## Decryption -/

theorem decryptKey_of_isClear {pem : Bytes} {block : Armour} (hblock : Armour.ofText? pem = some block)
    (hclear : KeyDocument.IsClear block.contents) (passphrase : Bytes)
    (expected : Option KeyFamily) : decryptKey pem passphrase expected = .error .decryptionFailed := by
  unfold decryptKey
  simp only [hblock, openDocument?_of_isClear hclear]

/-- A text whose first block holds a key in the clear fails to be decrypted, whatever its label says
and whatever passphrase and family it is tried with. Every document that is read from a container is
such a key, so what a decryption gives out is refused when it is handed in again. -/
theorem decryptKey_clear (pem passphrase : Bytes) (expected : Option KeyFamily) :
    (∀ block, Armour.ofText? pem = some block → KeyDocument.IsClear block.contents →
        decryptKey pem passphrase expected = .error .decryptionFailed) ∧
      (∀ bytes document, KeyDocument.ofDer? bytes = some document → KeyDocument.IsClear bytes) ∧
      ∀ text, decryptKey pem passphrase expected = .ok text →
        ∀ again other, decryptKey (Bytes.ofText text) again other = .error .decryptionFailed := by
  refine ⟨fun _ hblock hclear => decryptKey_of_isClear hblock hclear passphrase expected,
    fun _ _ => KeyDocument.isClear_of_ofDer?, ?_⟩
  intro text htext again other
  obtain ⟨_, _, _, normal, _, -, -, -, -, hblock, hread, -⟩ := decryptKey_normalForm htext
  exact decryptKey_of_isClear hblock (KeyDocument.isClear_of_ofDer? hread) again other

/-- A key with attributes in the clear, under a label that says it is encrypted, is refused, and so is
the text that the same key comes out of its container as. -/
theorem looseKey_clear :
    decryptKey (Bytes.ofText (Armour.toText ⟨"ENCRYPTED PRIVATE KEY", looseKey.der⟩)) [] none =
        .error .decryptionFailed ∧
      ∃ pem : String, decryptKey (Bytes.ofText pem) [] (some .rsa) = .ok tidyKey.toText ∧
        decryptKey (Bytes.ofText tidyKey.toText) [] (some .rsa) = .error .decryptionFailed := by
  have hread : KeyDocument.ofDer? looseKey.der = some looseKey := by decide +kernel
  have hlabel : "ENCRYPTED PRIVATE KEY" ≠ "" := by decide
  have hdash : (0x2D : UInt8) ∉ Bytes.ofText "ENCRYPTED PRIVATE KEY" := by decide +kernel
  have hblock : Armour.ofText? (Bytes.ofText (Armour.toText ⟨_, looseKey.der⟩)) =
      some ⟨"ENCRYPTED PRIVATE KEY", looseKey.der⟩ := Armour.ofText?_toText hlabel hdash
  have hnormal : looseKey.normalize? .rsa = some tidyKey := by decide +kernel
  have hencode : looseKey.encode (some .rsa) = .ok tidyKey.toText := by
    have hfamily : looseKey.family = .ok .rsa := KeyDocument.family_of_rsa rfl
    rw [KeyDocument.encode_some hfamily, if_pos rfl, KeyDocument.encode_none hfamily, hnormal]
  obtain ⟨pem, hpem⟩ := exists_decryptKey [] hread (by decide) hencode
  obtain ⟨-, -, hagain⟩ := decryptKey_clear (Bytes.ofText pem) [] (some .rsa)
  obtain ⟨hrefused, hclear, -⟩ := decryptKey_clear (Bytes.ofText (Armour.toText _)) [] none
  exact ⟨hrefused _ hblock (hclear _ _ hread), pem, hpem, hagain _ hpem [] (some .rsa)⟩

end CertSync
