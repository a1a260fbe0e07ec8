import CertSync.Hook.Export
import CertSync.Hook.World

/-!
# What an export delivers

An export reads one entry and writes two. Which entries these are is settled by the resource, the
configuration and the passphrase reference, and nothing keeps them apart.
-/

namespace CertSync

def SecretRef.entry (ref : SecretRef) (ns : String) : EntryId := ⟨ref.nsOr ns, ref.name, ref.key⟩

namespace ExportDestination

def certificateEntry (d : ExportDestination) : EntryId := ⟨d.ns, d.name, d.certificateKey⟩

def privateKeyEntry (d : ExportDestination) : EntryId := ⟨d.ns, d.name, d.privateKeyKey⟩

/-- The certificate is written, with the chain after it. -/
def certificateCall (d : ExportDestination) (material : ExportedMaterial) : Call :=
  .secret (.write d.ns d.name d.certificateKey (material.certificate ++ material.chain.getD ""))

def privateKeyCall (d : ExportDestination) (privateKey : String) : Call :=
  .secret (.write d.ns d.name d.privateKeyKey privateKey)

end ExportDestination

/-- Where an export to the target goes: what the target leaves empty is up to the resource, or to
the configuration. -/
structure Certificate.Completes (config : Config) (c : Certificate) (target : ExportTarget)
    (dest : ExportDestination) : Prop where
  ns : dest.ns = if target.ns = "" then c.metadata.ns.getD "default" else target.ns
  name : dest.name = target.name
  certificateKey :
    dest.certificateKey = if target.key = "" then config.exportCertificateKey else target.key
  privateKeyKey : dest.privateKeyKey = config.exportPrivateKeyKey

theorem getD_nonEmpty (text fallback : String) :
    (nonEmpty (some text)).getD fallback = if text = "" then fallback else text := by
  by_cases h : text = "" <;> simp [nonEmpty, Option.filter_some, h]

namespace Certificate

theorem exportDestination_completes (config : Config) (c : Certificate) (target : ExportTarget) :
    c.Completes config target (c.exportDestination config target) :=
  ⟨getD_nonEmpty _ _, rfl, getD_nonEmpty _ _, rfl⟩

theorem Completes.eq {config : Config} {c : Certificate} {target : ExportTarget}
    {dest : ExportDestination} (h : c.Completes config target dest) :
    dest = c.exportDestination config target := by
  cases dest
  refine (ExportDestination.mk.injEq ..).mpr ⟨?_, h.name, ?_, h.privateKeyKey⟩
  · exact h.ns.trans (getD_nonEmpty _ _).symm
  · exact h.certificateKey.trans (getD_nonEmpty _ _).symm

end Certificate

theorem ExportedMaterial.bundle_eq (m : ExportedMaterial) :
    m.bundle = m.certificate ++ m.chain.getD "" := by
  rw [bundle]
  cases m.chain with
  | none => rfl
  | some chain =>
    -- A chain that is empty adds nothing, so the text has no case for it.
    rw [getD_nonEmpty, Option.getD_some]
    split <;> simp_all

theorem SecretTable.ext {a b : SecretTable} (h : ∀ entry : EntryId, a[entry]? = b[entry]?) :
    a = b :=
  Std.ExtTreeMap.ext_getElem? fun entry => h entry

theorem SecretTable.getElem?_insert (table : SecretTable) (written entry : EntryId)
    (text : String) :
    (table.insert written text)[entry]? = if written = entry then some text else table[entry]? := by
  simp [Std.ExtTreeMap.getElem?_insert]

/-! ## Deliveries -/

/-- What an export that succeeds works with. -/
structure Delivery where
  destination : ExportDestination
  arn : String
  reference : SecretRef
  passphraseEntry : EntryId
  passphrase : String
  material : ExportedMaterial
  privateKey : String

namespace Delivery

def certificateEntry (d : Delivery) : EntryId := d.destination.certificateEntry

def privateKeyEntry (d : Delivery) : EntryId := d.destination.privateKeyEntry

/-- The certificate, with the chain after it. -/
def certificateText (d : Delivery) : String := d.material.certificate ++ d.material.chain.getD ""

def applyTo (d : Delivery) (secrets : SecretTable) : SecretTable :=
  (secrets.insert d.certificateEntry d.certificateText).insert d.privateKeyEntry d.privateKey

/-- The secrets hold what was delivered, and the passphrase as well. -/
def HeldBy (d : Delivery) (secrets : SecretTable) : Prop :=
  secrets[d.certificateEntry]? = some d.certificateText ∧
    secrets[d.privateKeyEntry]? = some d.privateKey ∧
    secrets[d.passphraseEntry]? = some d.passphrase

/-- No entry is asked to hold two texts. -/
def Consistent (d : Delivery) : Prop :=
  (d.certificateEntry = d.privateKeyEntry → d.certificateText = d.privateKey) ∧
    (d.certificateEntry = d.passphraseEntry → d.certificateText = d.passphrase) ∧
    (d.privateKeyEntry = d.passphraseEntry → d.privateKey = d.passphrase)

variable {d : Delivery} {secrets other : SecretTable} {entry : EntryId}

theorem getElem?_applyTo (d : Delivery) (secrets : SecretTable) (entry : EntryId) :
    (d.applyTo secrets)[entry]? =
      if d.privateKeyEntry = entry then some d.privateKey
      else if d.certificateEntry = entry then some d.certificateText
      else secrets[entry]? := by
  rw [applyTo, SecretTable.getElem?_insert, SecretTable.getElem?_insert]

theorem getElem?_applyTo_of_ne (hcert : entry ≠ d.certificateEntry)
    (hkey : entry ≠ d.privateKeyEntry) : (d.applyTo secrets)[entry]? = secrets[entry]? := by
  rw [getElem?_applyTo, if_neg (Ne.symm hkey), if_neg (Ne.symm hcert)]

theorem applyTo_congr
    (h : ∀ entry : EntryId, entry ≠ d.certificateEntry → entry ≠ d.privateKeyEntry →
      secrets[entry]? = other[entry]?) :
    d.applyTo secrets = d.applyTo other := by
  apply SecretTable.ext
  intro entry
  rw [getElem?_applyTo, getElem?_applyTo]
  by_cases hkey : d.privateKeyEntry = entry
  · rw [if_pos hkey, if_pos hkey]
  by_cases hcert : d.certificateEntry = entry
  · rw [if_neg hkey, if_neg hkey, if_pos hcert, if_pos hcert]
  · rw [if_neg hkey, if_neg hkey, if_neg hcert, if_neg hcert]
    exact h entry (Ne.symm hcert) (Ne.symm hkey)

theorem applyTo_applyTo (d : Delivery) (secrets : SecretTable) :
    d.applyTo (d.applyTo secrets) = d.applyTo secrets :=
  applyTo_congr fun _ hcert hkey => getElem?_applyTo_of_ne hcert hkey

theorem heldBy_applyTo_iff (hread : secrets[d.passphraseEntry]? = some d.passphrase) :
    d.HeldBy (d.applyTo secrets) ↔ d.Consistent := by
  have hpassphrase : (d.applyTo secrets)[d.passphraseEntry]? = some d.passphrase ↔
      (d.privateKeyEntry = d.passphraseEntry → d.privateKey = d.passphrase) ∧
        (d.privateKeyEntry ≠ d.passphraseEntry → d.certificateEntry = d.passphraseEntry →
          d.certificateText = d.passphrase) := by
    rw [getElem?_applyTo, hread]
    by_cases hkey : d.privateKeyEntry = d.passphraseEntry
    · simp [hkey]
    · by_cases hcert : d.certificateEntry = d.passphraseEntry <;> simp [hkey, hcert]
  have hcertificate : (d.applyTo secrets)[d.certificateEntry]? = some d.certificateText ↔
      (d.certificateEntry = d.privateKeyEntry → d.certificateText = d.privateKey) := by
    rw [getElem?_applyTo]
    by_cases hsame : d.certificateEntry = d.privateKeyEntry
    · simp [hsame, eq_comm]
    · simp [hsame, Ne.symm hsame]
  have hkey : (d.applyTo secrets)[d.privateKeyEntry]? = some d.privateKey := by
    rw [getElem?_applyTo, if_pos rfl]
  rw [HeldBy, Consistent, hcertificate, hpassphrase]
  constructor
  · rintro ⟨hsame, -, hown, hother⟩
    refine ⟨hsame, ?_, hown⟩
    intro hcert
    by_cases hp : d.privateKeyEntry = d.passphraseEntry
    · rw [hsame (hcert.trans hp.symm), hown hp]
    · exact hother hp hcert
  · rintro ⟨hsame, hcert, hown⟩
    exact ⟨hsame, hkey, hown, fun _ => hcert⟩

end Delivery

/-- The delivery that an export makes of the secrets, and of the answers that the service has for
passphrases. -/
structure Certificate.Delivers (config : Config) (c : Certificate) (answer : Bytes → ExportAnswer)
    (secrets : SecretTable) (d : Delivery) : Prop where
  destination : ∃ target, c.spec.exportTo = some target ∧ Text.allBlank target.name = false ∧
    c.Completes config target d.destination
  reference : c.spec.exportPassphrase = some d.reference
  arn : c.arn? = some d.arn
  passphraseEntry : d.passphraseEntry = d.reference.entry c.nsOrDefault
  passphrase : secrets[d.passphraseEntry]? = some d.passphrase
  notEmpty : d.passphrase.isEmpty = false
  material : answer (Bytes.ofText d.passphrase) = .exported d.material
  privateKey : decryptKey (Bytes.ofText d.material.privateKey) (Bytes.ofText d.passphrase)
    (c.spec.keyAlgorithm.map KeyAlgorithm.family) = .ok d.privateKey

namespace Certificate.Delivers

variable {config : Config} {c : Certificate} {answer : Bytes → ExportAnswer}
  {secrets other : SecretTable} {d e : Delivery}

theorem unique (hd : c.Delivers config answer secrets d) (he : c.Delivers config answer secrets e) :
    d = e := by
  obtain ⟨target, htarget, -, hdestination⟩ := hd.destination
  obtain ⟨target', htarget', -, hdestination'⟩ := he.destination
  have hdest : d.destination = e.destination := by
    cases htarget.symm.trans htarget'
    exact hdestination.eq.trans hdestination'.eq.symm
  have hreference : d.reference = e.reference :=
    Option.some.inj (hd.reference.symm.trans he.reference)
  have hentry : d.passphraseEntry = e.passphraseEntry := by
    rw [hd.passphraseEntry, he.passphraseEntry, hreference]
  -- Each of the others is read with what the ones before it gave.
  have hpassphrase : d.passphrase = e.passphrase := by
    have hread := hd.passphrase
    rw [hentry] at hread
    exact Option.some.inj (hread.symm.trans he.passphrase)
  have hmaterial : d.material = e.material := by
    have hanswer := hd.material
    rw [hpassphrase] at hanswer
    exact ExportAnswer.exported.inj (hanswer.symm.trans he.material)
  have hkey : d.privateKey = e.privateKey := by
    have hdecrypt := hd.privateKey
    rw [hmaterial, hpassphrase] at hdecrypt
    exact Except.ok.inj (hdecrypt.symm.trans he.privateKey)
  have harn : d.arn = e.arn := Option.some.inj (hd.arn.symm.trans he.arn)
  cases d
  cases e
  simp_all only

theorem congr (hd : c.Delivers config answer secrets d)
    (h : other[d.passphraseEntry]? = secrets[d.passphraseEntry]?) :
    c.Delivers config answer other d :=
  { hd with passphrase := h.trans hd.passphrase }

end Certificate.Delivers

end CertSync
