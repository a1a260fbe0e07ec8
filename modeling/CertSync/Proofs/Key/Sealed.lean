import CertSync.Key.Decryption
import CertSync.Proofs.Key.Armour
import CertSync.Proofs.Key.Container

/-!
# Every key comes out of some armour

For a key that can be written in the clear, and any passphrase, there is a text that decrypts to it.
-/

namespace CertSync

theorem exists_decryptKey (passphrase : Bytes) {document : KeyDocument}
    {expected : Option KeyFamily} {text : String}
    (hread : KeyDocument.ofDer? document.der = some document)
    (hlength : document.der.length < 0x4000000) (hencode : document.encode expected = .ok text) :
    ∃ pem : String, decryptKey (Bytes.ofText pem) passphrase expected = .ok text := by
  obtain ⟨bytes, container, hcontainer, hopen⟩ :=
    KeyContainer.exists_open? passphrase document.der hlength
  let block : Armour := { label := "ENCRYPTED PRIVATE KEY", contents := bytes }
  have hlabel : "ENCRYPTED PRIVATE KEY" ≠ "" := by decide
  have hdash : (0x2D : UInt8) ∉ Bytes.ofText "ENCRYPTED PRIVATE KEY" := by decide +kernel
  have hblock : Armour.ofText? (Bytes.ofText block.toText) = some block :=
    Armour.ofText?_toText hlabel hdash
  have hdocument : openDocument? bytes passphrase = some document := by
    rw [openDocument?, hcontainer, Option.bind_eq_bind, Option.bind_some, hopen]
    exact hread
  refine ⟨block.toText, ?_⟩
  unfold decryptKey
  simp only [hblock, block, hdocument, hencode]
  rfl

/-- A key on the largest curve, which is written as it is read even if it is empty. -/
def emptyKey : KeyDocument where
  algorithm := ⟨KeyDocument.ecPublicKey, some (.objectId (KeyDocument.curveId .p521))⟩
  key := []
  der := [
    0x30, 0x17, 0x02, 0x01, 0x00,
    0x30, 0x10, 0x06, 0x07, 0x2A, 0x86, 0x48, 0xCE, 0x3D, 0x02, 0x01,
    0x06, 0x05, 0x2B, 0x81, 0x04, 0x00, 0x23,
    0x04, 0x00]

theorem exists_decryptKey_emptyKey (passphrase : Bytes) :
    ∃ pem : String, decryptKey (Bytes.ofText pem) passphrase none = .ok emptyKey.toText :=
  have hread : KeyDocument.ofDer? emptyKey.der = some emptyKey := by decide +kernel
  exists_decryptKey passphrase hread (by decide) rfl

/-- A key on the same curve that is not empty. -/
def shortKey : KeyDocument where
  algorithm := emptyKey.algorithm
  key := [0x01]
  der := [
    0x30, 0x18, 0x02, 0x01, 0x00,
    0x30, 0x10, 0x06, 0x07, 0x2A, 0x86, 0x48, 0xCE, 0x3D, 0x02, 0x01,
    0x06, 0x05, 0x2B, 0x81, 0x04, 0x00, 0x23,
    0x04, 0x01, 0x01]

theorem exists_decryptKey_shortKey (passphrase : Bytes) :
    ∃ pem : String, decryptKey (Bytes.ofText pem) passphrase none = .ok shortKey.toText :=
  have hread : KeyDocument.ofDer? shortKey.der = some shortKey := by decide +kernel
  exists_decryptKey passphrase hread (by decide) rfl

theorem shortKey_toText_ne : shortKey.toText ≠ emptyKey.toText := by decide +kernel

end CertSync
