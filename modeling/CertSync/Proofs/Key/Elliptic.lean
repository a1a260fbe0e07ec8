import CertSync.Key.Elliptic
import CertSync.Proofs.Key.Document

/-!
# Elliptic curve keys are read as they were written

A key is written with as many bytes as the group's field takes, and with its point, so the reader
finds the point it expects.
-/

namespace CertSync

namespace CurveGroup

/-- The group is one whose keys fill the bytes that are read, and whose elements stay short. -/
structure Sized (g : CurveGroup) : Prop where
  least : EllipticKey.leastSize ≤ g.size
  most : g.size ≤ 66
  order : g.order ≤ 256 ^ g.size

theorem sized_p256 : p256.Sized := ⟨by decide, by decide, by decide⟩

theorem sized_p384 : p384.Sized := ⟨by decide, by decide, by decide⟩

theorem length_wholeBytes (g : CurveGroup) (point : Nat × Nat) :
    (g.wholeBytes point).length = 2 * g.size + 1 := by
  unfold wholeBytes
  rw [List.length_cons, List.length_append, Bytes.length_ofNat, Bytes.length_ofNat]
  omega

end CurveGroup

namespace EllipticKey

variable {g : CurveGroup} {key : EllipticKey}

theorem bounds_of_ofDer? {bytes : Bytes} (h : ofDer? g bytes = some key) :
    1 ≤ key.secret ∧ key.secret < g.order := by
  unfold ofDer? at h
  simp only [Option.bind_eq_bind, Option.bind_eq_some_iff] at h
  obtain ⟨_, _, elements, _, h⟩ := h
  match elements, h with
  | _ :: _ :: _, h =>
    simp only [Option.bind_eq_some_iff, Option.guard_eq_some'] at h
    obtain ⟨_, _, secret, _, _, _, _, _, _, _, _, hbounds, _, _, hkey⟩ := h
    rw [Option.pure_def, Option.some.injEq] at hkey
    rwa [← hkey]

/-- The point of a key, as it follows the key. -/
def publicField (g : CurveGroup) (key : EllipticKey) : DerElement :=
  .explicit 1 (.bits (g.wholeBytes (g.publicPoint key.secret)))

theorem tag_publicField (g : CurveGroup) (key : EllipticKey) : (publicField g key).tag = 0xA1 := rfl

theorem isTag_publicField (g : CurveGroup) (key : EllipticKey) :
    DerElement.isTag (publicField g key).tag = true := by
  rw [tag_publicField]
  decide

theorem namesCurve_publicField (g : CurveGroup) (key : EllipticKey) :
    namesCurve [publicField g key] = true := by
  have hnumber : DerElement.contextNumber? 0xA1 = some 1 := by decide
  unfold namesCurve
  simp [tag_publicField, hnumber]

theorem readable_publicBits (hsized : g.Sized) (key : EllipticKey) :
    (DerElement.bits (g.wholeBytes (g.publicPoint key.secret))).IsReadable ∧
      (DerElement.bits (g.wholeBytes (g.publicPoint key.secret))).contents.length ≤ 134 := by
  have hpoint := g.length_wholeBytes (g.publicPoint key.secret)
  have hmost := hsized.most
  have hlength : (DerElement.bits (g.wholeBytes (g.publicPoint key.secret))).contents.length =
      2 * g.size + 2 := by
    change (0 :: g.wholeBytes (g.publicPoint key.secret)).length = _
    rw [List.length_cons, hpoint]
  exact ⟨⟨rfl, by omega⟩, by omega⟩

theorem publicKey?_publicField (hsized : g.Sized) (key : EllipticKey) :
    publicKey? [publicField g key] = some (some (g.wholeBytes (g.publicPoint key.secret))) := by
  have hcontents : DerElement.readOne? (publicField g key).contents =
      some (.bits (g.wholeBytes (g.publicPoint key.secret))) :=
    DerElement.readOne?_write (readable_publicBits hsized key).1
  have hbits : (DerElement.bits (g.wholeBytes (g.publicPoint key.secret))).bits? =
      some (g.wholeBytes (g.publicPoint key.secret)) := rfl
  rw [publicKey?, if_pos (tag_publicField g key), hcontents, Option.bind_eq_bind, Option.bind_some, hbits]
  simp [guard]

theorem readable_fields (hsized : g.Sized) (key : EllipticKey) :
    (DerElement.octets (Bytes.ofNat g.size key.secret)).IsReadable ∧
      (publicField g key).IsReadable ∧ (publicField g key).contents.length ≤ 140 := by
  have hmost := hsized.most
  obtain ⟨hbits, hbitsLength⟩ := readable_publicBits hsized key
  have hwritten := DerElement.length_write_le hbits
  have hpublic : (publicField g key).contents.length ≤ 140 := by
    change (DerElement.bits (g.wholeBytes (g.publicPoint key.secret))).write.length ≤ _
    omega
  refine ⟨⟨rfl, ?_⟩, ⟨isTag_publicField g key, by omega⟩, hpublic⟩
  change (Bytes.ofNat g.size key.secret).length < _
  rw [Bytes.length_ofNat]
  omega

theorem length_toDer_le (hsized : g.Sized) (key : EllipticKey) : (key.toDer g).length ≤ 240 := by
  obtain ⟨hsecret, hpublic, hpublicLength⟩ := readable_fields hsized key
  have hmost := hsized.most
  have honeLength : (DerElement.natural 1).contents.length = 1 := by decide +kernel
  have hone : (DerElement.natural 1).IsReadable := ⟨rfl, by omega⟩
  have hsecretLength : (DerElement.octets (Bytes.ofNat g.size key.secret)).contents.length =
      g.size := Bytes.length_ofNat g.size key.secret
  let fields := [DerElement.natural 1, .octets (Bytes.ofNat g.size key.secret), publicField g key]
  have hfirst := DerElement.length_writeAll_cons_le hone (fields.drop 1)
  have hsecond := DerElement.length_writeAll_cons_le hsecret (fields.drop 2)
  have hthird := DerElement.length_writeAll_cons_le hpublic []
  have hnil : (DerElement.writeAll []).length = 0 := rfl
  have hcontents : (DerElement.sequence fields).contents.length ≤ 7 + (g.size + 6) + 146 := by
    change (DerElement.writeAll fields).length ≤ _
    simp only [fields, List.drop_succ_cons, List.drop_zero] at hfirst hsecond hthird ⊢
    omega
  have hwhole := DerElement.length_write_le
    (show (DerElement.sequence fields).IsReadable from ⟨rfl, by omega⟩)
  change (DerElement.sequence fields).write.length ≤ _
  omega

theorem ofDer?_toDer (hsized : g.Sized) (hleast : 1 ≤ key.secret) (hmost : key.secret < g.order) :
    ofDer? g (key.toDer g) = some key := by
  let fields := [DerElement.natural 1, .octets (Bytes.ofNat g.size key.secret), publicField g key]
  have htags : ∀ e ∈ fields, DerElement.isTag e.tag = true := by
    simp only [fields, List.forall_mem_cons]
    exact ⟨rfl, rfl, isTag_publicField g key, by simp⟩
  have hlength := length_toDer_le hsized key
  obtain ⟨whole, hwhole, hfields⟩ :=
    DerElement.read_sequence htags (show (key.toDer g).length < _ by omega)
  change DerElement.readOne? (key.toDer g) = some whole at hwhole
  have hversion : (DerElement.natural 1).naturalBelow? 256 = some 1 :=
    DerElement.naturalBelow?_natural (by decide)
  have hoctets : (DerElement.octets (Bytes.ofNat g.size key.secret)).octets? =
      some (Bytes.ofNat g.size key.secret) := rfl
  have hsecret : Bytes.toNat (Bytes.ofNat g.size key.secret) = key.secret :=
    Bytes.toNat_ofNat (Nat.lt_of_lt_of_le hmost hsized.order)
  unfold ofDer?
  rw [hwhole, Option.bind_eq_bind, Option.bind_some, hfields]
  simp only [fields, Option.bind_eq_bind, Option.bind_some, hversion, hoctets,
    namesCurve_publicField, publicKey?_publicField hsized, Bytes.length_ofNat, hsecret]
  simp [guard, hsized.least, hleast, hmost, matchesPublic]

theorem toDocument_spec (curve : Curve) (hsized : g.Sized) (hleast : 1 ≤ key.secret)
    (hmost : key.secret < g.order) :
    KeyDocument.ofDer? (key.toDocument curve g).der = some (key.toDocument curve g) ∧
      ofDer? g (key.toDocument curve g).key = some key := by
  have halgorithm : AlgorithmId.ofDer? (algorithm curve).toDer = some (algorithm curve) := by
    cases curve <;> decide +kernel
  have hsize : (algorithm curve).toDer.contents.length ≤ 40 := by cases curve <;> decide +kernel
  have hkey := length_toDer_le hsized key
  have hlength := KeyDocument.length_der_le
    (show (algorithm curve).toDer.IsReadable from ⟨rfl, by omega⟩)
    (show (algorithm curve).toDer.contents.length + (key.toDer g).length < _ by omega)
  exact ⟨KeyDocument.ofDer?_of halgorithm (by omega), ofDer?_toDer hsized hleast hmost⟩

end EllipticKey

end CertSync
