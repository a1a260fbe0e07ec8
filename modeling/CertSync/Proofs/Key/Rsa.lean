import CertSync.Proofs.Key.Document

/-!
# RSA keys are read as they were written

What a key is read from may hold other numbers that speed its use up than those that belong to it.
They are passed over, and the ones that are written are passed over as well.
-/

namespace CertSync.RsaKey

theorem valid_of_ofDer? {bytes : Bytes} {key : RsaKey} (h : ofDer? bytes = some key) :
    key.Valid := by
  unfold ofDer? at h
  simp only [Option.bind_eq_bind, Option.bind_eq_some_iff] at h
  obtain ⟨_, _, _, _, _, _, h⟩ := h
  split at h
  · simp only [Option.bind_eq_some_iff, Option.guard_eq_some'] at h
    obtain ⟨_, hvalid, hkey⟩ := h
    rw [Option.pure_def, Option.some.injEq] at hkey
    rwa [← hkey]
  · cases h

theorem ofDocument?_iff {document : KeyDocument} {key : RsaKey} :
    ofDocument? document = some key ↔
      document.algorithm = algorithm ∧ ofDer? document.key = some key := by
  unfold ofDocument?
  by_cases h : document.algorithm = algorithm <;> simp [h, guard, failure]

theorem ofDer?_toDer? {key : RsaKey} {bytes : Bytes} (hvalid : key.Valid)
    (h : key.toDer? = some bytes) (hlength : bytes.length < 0x10000000) :
    ofDer? bytes = some key := by
  unfold toDer? at h
  simp only [Option.bind_eq_bind, Option.bind_eq_some_iff, Option.pure_def, Option.some.injEq] at h
  obtain ⟨coefficient, -, rfl⟩ := h
  have htags : ∀ numbers : List Nat, ∀ e ∈ numbers.map DerElement.natural,
      DerElement.isTag e.tag = true := by
    intro numbers e he
    obtain ⟨n, -, rfl⟩ := List.mem_map.mp he
    rfl
  obtain ⟨whole, hwhole, hnumbers⟩ := DerElement.read_sequence (htags _) hlength
  unfold ofDer?
  rw [hwhole, Option.bind_eq_bind, Option.bind_some, hnumbers, Option.bind_eq_bind,
    Option.bind_some, DerElement.mapM_natural?_natural]
  simp [hvalid, guard]

theorem toDocument?_spec {key : RsaKey} {document : KeyDocument} (hvalid : key.Valid)
    (h : key.toDocument? = some document) :
    KeyDocument.ofDer? document.der = some document ∧ ofDocument? document = some key := by
  unfold toDocument? at h
  simp only [Option.bind_eq_bind, Option.bind_eq_some_iff, Option.guard_eq_some'] at h
  obtain ⟨bytes, hbytes, _, hlength, hdocument⟩ := h
  rw [Option.pure_def, Option.some.injEq] at hdocument
  subst hdocument
  have halgorithm : AlgorithmId.ofDer? algorithm.toDer = some algorithm := by decide +kernel
  have hkey : bytes.length < 0x10000000 :=
    Nat.lt_trans (KeyDocument.length_key_lt algorithm bytes) hlength
  exact ⟨KeyDocument.ofDer?_of halgorithm hlength,
    ofDocument?_iff.mpr ⟨rfl, ofDer?_toDer? hvalid hbytes hkey⟩⟩

end CertSync.RsaKey
