import CertSync.Key.Rsa
import CertSync.Proofs.Der.Number

/-!
# Documents are read as they were written

A document of a version without a public key is found again in its own bytes, as long as these are
not too many for one element.
-/

namespace CertSync.KeyDocument

theorem der_of_ofDer? {bytes : Bytes} {document : KeyDocument} (h : ofDer? bytes = some document) :
    document.der = bytes := by
  unfold ofDer? at h
  simp only [Option.bind_eq_bind, Option.bind_eq_some_iff] at h
  obtain ⟨_, _, elements, _, h⟩ := h
  match elements, h with
  | _ :: _ :: _ :: _, h =>
    simp only [Option.bind_eq_some_iff] at h
    obtain ⟨_, _, _, _, _, _, _, _, _, _, _, _, h⟩ := h
    rw [Option.pure_def, Option.some.injEq] at h
    rw [← h]

theorem ofDer?_der {bytes : Bytes} {document : KeyDocument} (h : ofDer? bytes = some document) :
    ofDer? document.der = some document := by
  rw [der_of_ofDer? h, h]

/-! ## Sizes -/

theorem length_key_lt (algorithm : AlgorithmId) (key : Bytes) :
    key.length < (of algorithm key).der.length := by
  let fields := [DerElement.natural 0, algorithm.toDer, DerElement.octets key]
  have hkey := DerElement.length_contents_lt (DerElement.octets key)
  have hfield : (DerElement.octets key).write.length ≤ (DerElement.writeAll fields).length :=
    DerElement.length_write_le_of_mem (by simp [fields])
  have hwhole := DerElement.length_contents_lt (DerElement.sequence fields)
  change key.length < _ at hkey
  change (DerElement.writeAll fields).length < (of algorithm key).der.length at hwhole
  omega

theorem length_der_le {algorithm : AlgorithmId} {key : Bytes} (halgorithm : algorithm.toDer.IsReadable)
    (h : algorithm.toDer.contents.length + key.length < 0x1000000) :
    (of algorithm key).der.length ≤ algorithm.toDer.contents.length + key.length + 25 := by
  have hzeroLength : (DerElement.natural 0).contents.length = 1 := by decide +kernel
  have hzero : (DerElement.natural 0).IsReadable := ⟨rfl, by omega⟩
  have hkeyLength : (DerElement.octets key).contents.length = key.length := rfl
  have hkey : (DerElement.octets key).IsReadable := ⟨rfl, by omega⟩
  have hfirst := DerElement.length_writeAll_cons_le hzero [algorithm.toDer, .octets key]
  have hsecond := DerElement.length_writeAll_cons_le halgorithm [.octets key]
  have hthird := DerElement.length_writeAll_cons_le hkey []
  have hnil : (DerElement.writeAll []).length = 0 := rfl
  have hcontents : (DerElement.sequence [.natural 0, algorithm.toDer, .octets key]).contents.length ≤
      algorithm.toDer.contents.length + key.length + 19 := by
    change (DerElement.writeAll [.natural 0, algorithm.toDer, .octets key]).length ≤ _
    omega
  have hwhole := DerElement.length_write_le
    (show (DerElement.sequence [.natural 0, algorithm.toDer, .octets key]).IsReadable from
      ⟨rfl, by omega⟩)
  change (DerElement.sequence [.natural 0, algorithm.toDer, .octets key]).write.length ≤ _
  omega

/-! ## Reading what was written -/

theorem ofDer?_of {algorithm : AlgorithmId} {key : Bytes}
    (halgorithm : AlgorithmId.ofDer? algorithm.toDer = some algorithm)
    (hlength : (of algorithm key).der.length < 0x10000000) :
    ofDer? (of algorithm key).der = some (of algorithm key) := by
  let fields := [DerElement.natural 0, algorithm.toDer, DerElement.octets key]
  have htags : ∀ e ∈ fields, DerElement.isTag e.tag = true := by
    simp only [fields, List.forall_mem_cons]
    exact ⟨rfl, rfl, rfl, by simp⟩
  obtain ⟨whole, hwhole, hfields⟩ := DerElement.read_sequence htags hlength
  have hversion : (DerElement.natural 0).naturalBelow? 2 = some 0 :=
    DerElement.naturalBelow?_natural (by decide)
  have hkey : (DerElement.octets key).octets? = some key := rfl
  change DerElement.readOne? (of algorithm key).der = some whole at hwhole
  unfold ofDer?
  rw [hwhole, Option.bind_eq_bind, Option.bind_some, hfields]
  simp only [fields, Option.bind_eq_bind, Option.bind_some, hversion, halgorithm, hkey, publicKey?]
  rfl

end CertSync.KeyDocument
