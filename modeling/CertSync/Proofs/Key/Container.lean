import CertSync.Key.Container
import CertSync.Proofs.Crypto.Aes
import CertSync.Proofs.Der.Element
import Mathlib.Data.Option.Basic

/-!
# Every text is in some container

Whatever the passphrase, there is a container that opens to a given text. So nothing can be said
of what comes out of a container by looking at the passphrase alone.
-/

namespace CertSync

/-! ## A container -/

theorem Crypto.length_sha1 (message : Bytes) : (Crypto.sha1.digest message).length = 20 := by
  simp [Crypto.sha1, Crypto.Sha1.digest, Crypto.Sha1.State.bytes, Bytes.ofNat]

theorem Crypto.length_pbkdf2_once (passphrase salt : Bytes) :
    (Crypto.pbkdf2 Crypto.sha1 passphrase salt 1 16).length = 16 := by
  have hcount : (16 + Crypto.sha1.digestSize - 1) / Crypto.sha1.digestSize = 1 := rfl
  have hblock : (Crypto.Pbkdf2.block (Crypto.hmac Crypto.sha1 passphrase) salt 1 1).length = 20 :=
    Crypto.length_sha1 _
  rw [Crypto.pbkdf2, hcount]
  simp [hblock]

namespace KeyContainer

def aes128 : ObjectId := ⟨[0x60, 0x86, 0x48, 0x01, 0x65, 0x03, 0x04, 0x01, 0x02]⟩

/-- Derivation in one step and without a salt. -/
def plainDerivation : AlgorithmId := ⟨pbkdf2, some (.sequence [.octets [], .natural 1])⟩

def plainCipher (iv : Bytes) : AlgorithmId := ⟨aes128, some (.octets iv)⟩

def plainScheme (iv : Bytes) : AlgorithmId :=
  ⟨pbes2, some (.sequence [plainDerivation.toDer, (plainCipher iv).toDer])⟩

def plainDer (iv data : Bytes) : DerElement :=
  .sequence [(plainScheme iv).toDer, .octets data]

theorem readable_objectIds :
    (DerElement.objectId pbes2).IsReadable ∧ (DerElement.objectId pbkdf2).IsReadable ∧
      (DerElement.objectId aes128).IsReadable :=
  ⟨⟨rfl, by decide⟩, ⟨rfl, by decide⟩, ⟨rfl, by decide⟩⟩

theorem readable_octets {bytes : Bytes} (h : bytes.length < 0x10000000) :
    (DerElement.octets bytes).IsReadable :=
  ⟨rfl, h⟩

theorem ofDer?_plainDerivation : AlgorithmId.ofDer? plainDerivation.toDer = some plainDerivation :=
  AlgorithmId.ofDer?_toDer (by decide) readable_objectIds.2.1 ⟨rfl, by decide +kernel⟩

theorem derivation?_plain :
    derivation? 16 plainDerivation = some (.pbkdf2 Crypto.sha1 [] 1) := by
  have hnatural : DerElement.natural 1 = ⟨0x02, [1]⟩ := by decide +kernel
  rw [plainDerivation, hnatural]
  rfl

theorem readable_plainDerivation : plainDerivation.toDer.IsReadable ∧
    plainDerivation.toDer.contents.length ≤ 40 :=
  ⟨⟨rfl, by decide +kernel⟩, by decide +kernel⟩

theorem readable_plainCipher {iv : Bytes} (hiv : iv.length = 16) :
    (plainCipher iv).toDer.IsReadable ∧ (plainCipher iv).toDer.contents.length ≤ 40 := by
  have hsum : (DerElement.objectId aes128).contents.length +
      (DerElement.octets iv).contents.length = 25 := by
    change 9 + iv.length = 25
    omega
  have hpair := DerElement.readable_pair readable_objectIds.2.2 (readable_octets (by omega))
    (by omega : (DerElement.objectId aes128).contents.length +
      (DerElement.octets iv).contents.length + 12 < _)
  rw [hsum] at hpair
  exact ⟨hpair.1, Nat.le_trans hpair.2 (by decide)⟩

theorem readable_plainParameters {iv : Bytes} (hiv : iv.length = 16) :
    (DerElement.sequence [plainDerivation.toDer, (plainCipher iv).toDer]).IsReadable ∧
      (DerElement.sequence [plainDerivation.toDer, (plainCipher iv).toDer]).contents.length ≤
        100 := by
  obtain ⟨hderivation, hderivationLength⟩ := readable_plainDerivation
  obtain ⟨hcipher, hcipherLength⟩ := readable_plainCipher hiv
  obtain ⟨hparameters, hlength⟩ := DerElement.readable_pair hderivation hcipher (by omega)
  exact ⟨hparameters, by omega⟩

theorem readable_plainScheme {iv : Bytes} (hiv : iv.length = 16) :
    (plainScheme iv).toDer.IsReadable ∧ (plainScheme iv).toDer.contents.length ≤ 130 := by
  obtain ⟨hparameters, hlength⟩ := readable_plainParameters hiv
  have hobject : (DerElement.objectId pbes2).contents.length = 9 := rfl
  obtain ⟨hscheme, hschemeLength⟩ :=
    DerElement.readable_pair readable_objectIds.1 hparameters (by omega)
  exact ⟨hscheme, Nat.le_trans hschemeLength (by omega)⟩

theorem cipher?_plainCipher {iv : Bytes} (hiv : iv.length = 16) :
    cipher? (plainCipher iv) = some (16, iv) := by
  have hoctets : (DerElement.octets iv).octets? = some iv := rfl
  have hsize : keySize? aes128 = some 16 := rfl
  simp only [cipher?, plainCipher, Option.bind_eq_bind, Option.bind_some, hoctets, hiv, hsize,
    guard, if_true, Option.pure_def]

theorem ofDer?_plainDer {iv data : Bytes} (hiv : iv.length = 16) (hdata : data.length < 0x8000000) :
    ofDer? (plainDer iv data).write =
      some { derivation := .pbkdf2 Crypto.sha1 [] 1, keySize := 16, iv, data } := by
  have hbytes : (DerElement.octets data).IsReadable := readable_octets (by omega)
  obtain ⟨hscheme, hlength⟩ := readable_plainScheme hiv
  obtain ⟨hparameters, -⟩ := readable_plainParameters hiv
  have htop := (DerElement.readable_pair hscheme hbytes (by
    change _ + data.length + 12 < _
    omega)).1
  have hreadScheme : AlgorithmId.ofDer? (plainScheme iv).toDer = some (plainScheme iv) :=
    AlgorithmId.ofDer?_toDer (by decide) readable_objectIds.1 hparameters
  have hreadCipher : AlgorithmId.ofDer? (plainCipher iv).toDer = some (plainCipher iv) :=
    AlgorithmId.ofDer?_toDer (by decide) readable_objectIds.2.2 (readable_octets (by omega))
  have hpair := DerElement.sequence?_pair readable_plainDerivation.1 (readable_plainCipher hiv).1
  have hid : (plainScheme iv).id = pbes2 := rfl
  have hschemeParameters : (plainScheme iv).parameters =
      some (.sequence [plainDerivation.toDer, (plainCipher iv).toDer]) := rfl
  have hoctets : (DerElement.octets data).octets? = some data := rfl
  simp only [ofDer?, plainDer, DerElement.readOne?_write htop, Option.bind_eq_bind,
    Option.bind_some, DerElement.sequence?_pair hscheme hbytes, hreadScheme, hid, guard, if_true,
    Option.pure_def, hschemeParameters, hpair, hreadCipher, cipher?_plainCipher hiv,
    ofDer?_plainDerivation, derivation?_plain, hoctets]

theorem exists_open? (passphrase text : Bytes) (h : text.length < 0x4000000) :
    ∃ bytes c, ofDer? bytes = some c ∧ c.open? passphrase = some text := by
  have hkey : (Crypto.pbkdf2 Crypto.sha1 passphrase [] 1 16).length = 16 :=
    Crypto.length_pbkdf2_once passphrase []
  have hpos : 0 < (Crypto.pbkdf2 Crypto.sha1 passphrase [] 1 16).length := by rw [hkey]; decide
  obtain ⟨iv, data, hiv, hdata, htext⟩ :=
    Crypto.Aes.exists_decryptCbc? hpos (by rw [hkey]; decide) text
  exact ⟨_, _, ofDer?_plainDer hiv (by omega), htext⟩

end KeyContainer

end CertSync
