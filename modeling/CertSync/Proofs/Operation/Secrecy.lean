import CertSync.Proofs.Export.Run
import CertSync.Proofs.Import.Run
import CertSync.Proofs.Key.Sealed
import CertSync.Proofs.Session.Mirror

/-!
# What exports and imports keep to themselves

Two runs that differ in secrets only, the passphrase and the private keys above all, cannot be told
apart by their logs, their records or their results. Of their calls only those differ that hand the
secrets on.
-/

namespace CertSync

variable {σ τ : Type}

/-! ## Exports -/

/-- Answers to exports under two passphrases that agree up to the private key. That can be read in
both, or it is refused in both for the same reason. -/
inductive ExportAnswer.LikeKey (family : Option KeyFamily) (passphrase passphrase' : Bytes) :
    ExportAnswer → ExportAnswer → Prop
  | notFound : LikeKey family passphrase passphrase' .notFound .notFound
  | exported {m m' : ExportedMaterial} (certificate : m'.certificate = m.certificate)
      (chain : m'.chain = m.chain)
      (key : (decryptKey (Bytes.ofText m'.privateKey) passphrase' family).map (fun _ => ()) =
        (decryptKey (Bytes.ofText m.privateKey) passphrase family).map fun _ => ()) :
      LikeKey family passphrase passphrase' (.exported m) (.exported m')

/-- Calls that differ at most in the passphrase that they hand on, or in the key that was read and
is written to its entry. -/
inductive Call.LikeExport (config : Config) (family : Option KeyFamily) : Call → Call → Prop
  | same (c : Call) : LikeExport config family c c
  | passphrase (arn : String) (passphrase passphrase' : Bytes) :
      LikeExport config family (.service (.exportCertificate arn passphrase))
        (.service (.exportCertificate arn passphrase'))
  | privateKey (ns name : String) {pem pem' passphrase passphrase' : Bytes} {text text' : String}
      (h : decryptKey pem passphrase family = .ok text)
      (h' : decryptKey pem' passphrase' family = .ok text') :
      LikeExport config family (.secret (.write ns name config.exportPrivateKeyKey text))
        (.secret (.write ns name config.exportPrivateKeyKey text'))

namespace Certificate

/-- Passphrases are alike unless just one of them is empty. -/
def exportLikeness (config : Config) (c : Certificate) : Likeness where
  call := Call.LikeExport config (c.spec.keyAlgorithm.map KeyAlgorithm.family)
  answer
    | .secret (.resolve _ _), .secret (.resolve _ _), value, value' =>
      String.isEmpty value' = String.isEmpty value
    | .service (.exportCertificate _ passphrase), .service (.exportCertificate _ passphrase'),
        answer, answer' =>
      answer.LikeKey (c.spec.keyAlgorithm.map KeyAlgorithm.family) passphrase passphrase' answer'
    | _, _, _, _ => True

variable {config : Config} {c : Certificate}

theorem exportPassphrase_mirrors (ref : SecretRef) :
    Hook.Mirrors (exportLikeness config c) (fun _ _ => True) (c.exportPassphrase ref)
      (c.exportPassphrase ref) := by
  unfold exportPassphrase
  refine .bind (.resolve _ _ _ _ (.same _)) fun value value' hvalue => ?_
  have hsame : value'.isEmpty = value.isEmpty := hvalue
  rw [hsame]
  cases value.isEmpty with
  | true => exact .throw _
  | false => exact .pure trivial

theorem both_of_map_unit {ε α : Type} {x y : Except ε α}
    (h : (y.map fun _ => ()) = x.map fun _ => ()) :
    (∃ e, x = .error e ∧ y = .error e) ∨ ∃ a b, x = .ok a ∧ y = .ok b := by
  cases x with
  | error e =>
    cases y with
    | error e' => cases h; exact .inl ⟨e, rfl, rfl⟩
    | ok b => cases h
  | ok a =>
    cases y with
    | error e => cases h
    | ok b => exact .inr ⟨a, b, rfl, rfl⟩

theorem deliver_mirrors {passphrase passphrase' : String} (dest : ExportDestination)
    (hdest : dest.privateKeyKey = config.exportPrivateKeyKey) {m m' : ExportedMaterial}
    (h : ExportAnswer.LikeKey (c.spec.keyAlgorithm.map KeyAlgorithm.family)
      (Bytes.ofText passphrase) (Bytes.ofText passphrase') (.exported m) (.exported m')) :
    Hook.Mirrors (exportLikeness config c) (fun _ _ => True) (c.deliver passphrase dest m)
      (c.deliver passphrase' dest m') := by
  cases h with
  | exported hcertificate hchain hkey =>
  have hbundle : m'.bundle = m.bundle := by
    rw [ExportedMaterial.bundle, ExportedMaterial.bundle, hcertificate, hchain]
  unfold deliver
  rw [hbundle]
  refine .bind (.write _ _ _ _ (.same _)) fun _ _ _ => .bind (.log _) fun _ _ _ => ?_
  -- Either both keys are refused, with the same error, or both are written.
  rcases both_of_map_unit hkey with ⟨error, hread, hread'⟩ | ⟨text, text', hread, hread'⟩
  · simp only [hread, hread']
    exact .throw _
  · simp only [hread, hread', hdest]
    exact .write _ _ _ _ (.privateKey _ _ hread hread')

theorem exportMaterial_mirrors (arn : String) (ref : SecretRef) (dest : ExportDestination)
    (hdest : dest.privateKeyKey = config.exportPrivateKeyKey) :
    Hook.Mirrors (exportLikeness config c) Eq (c.exportMaterial arn ref dest)
      (c.exportMaterial arn ref dest) := by
  unfold exportMaterial
  refine .bind (exportPassphrase_mirrors ref) fun passphrase passphrase' _ => ?_
  have hexport : Hook.Mirrors (exportLikeness config c)
      (ExportAnswer.LikeKey (c.spec.keyAlgorithm.map KeyAlgorithm.family)
        (Bytes.ofText passphrase) (Bytes.ofText passphrase'))
      (c.exportSite.service (.exportCertificate arn (Bytes.ofText passphrase)))
      (c.exportSite.service (.exportCertificate arn (Bytes.ofText passphrase'))) :=
    .service _ (.exportCertificate arn _) (.exportCertificate arn _) rfl rfl
      (Call.LikeExport.passphrase arn _ _)
  refine .bind hexport fun answer answer' hanswer => ?_
  cases hanswer with
  | notFound => exact .bind (.log _) fun _ _ _ => .pure rfl
  | exported hcertificate hchain hkey =>
    refine .bind (deliver_mirrors dest hdest (.exported hcertificate hchain hkey)) fun _ _ _ => ?_
    exact .bind (.log _) fun _ _ _ => .pure rfl

theorem exportHook_mirrors (config : Config) (c : Certificate) :
    Hook.Mirrors (exportLikeness config c) Eq (exportHook config c) (exportHook config c) := by
  rcases exportHook_cases config c with h | ⟨e, h⟩ | ⟨_, _, _, _, _, _, _, h⟩ <;> rw [h]
  · exact .pure rfl
  · exact .throw _
  · exact .bind (.log _) fun _ _ _ => exportMaterial_mirrors _ _ _ rfl

end Certificate

/-! ## Imports -/

/-- Calls that differ at most in the material that they hand on, and not in how much of it there
is. -/
inductive Call.LikeImport : Call → Call → Prop
  | same (c : Call) : LikeImport c c
  | material {r r' : ImportRequest} (certificate : r'.certificate.length = r.certificate.length)
      (chain : r'.chain.map List.length = r.chain.map List.length) (tags : r'.tags = r.tags) :
      LikeImport (.service (.importCertificate r)) (.service (.importCertificate r'))

namespace Certificate

/-- Private keys are alike unless just one of them is empty. Of certificates and chains the lengths
count as well, and of new certificates the identifiers. -/
def importLikeness (c : Certificate) : Likeness where
  call := Call.LikeImport
  answer
    | .secret (.resolve _ ref), .secret (.resolve _ _), value, value' =>
      String.isEmpty value' = String.isEmpty value ∧
        (c.spec.certificate = some ref ∨ c.spec.certificateChain = some ref →
          (Bytes.ofText value').length = (Bytes.ofText value).length)
    | .service (.importCertificate _), .service (.importCertificate _), arn, arn' => arn' = arn
    | _, _, _, _ => True

variable {config : Config} {c : Certificate}

theorem importRef_mirrors (field : String) (ref : Option SecretRef) :
    Hook.Mirrors c.importLikeness (fun a b => b = a ∧ ref = some a) (c.importRef field ref)
      (c.importRef field ref) := by
  cases ref with
  | none => exact .throw _
  | some ref => exact .pure ⟨rfl, rfl⟩

theorem resolveMaterial_mirrors (field : String) (ref : SecretRef) :
    Hook.Mirrors c.importLikeness
      (fun value value' => c.spec.certificate = some ref ∨ c.spec.certificateChain = some ref →
        (Bytes.ofText value').length = (Bytes.ofText value).length)
      (c.resolveMaterial field ref) (c.resolveMaterial field ref) := by
  unfold resolveMaterial
  refine .bind (.resolve _ _ _ _ (.same _)) fun value value' hvalue => ?_
  have hsame : value'.isEmpty = value.isEmpty := hvalue.1
  rw [hsame]
  cases value.isEmpty with
  | true => exact .throw _
  | false => exact .pure hvalue.2

theorem resolveChain_mirrors :
    Hook.Mirrors c.importLikeness
      (fun chain chain' => chain'.map List.length = chain.map List.length)
      c.resolveChain c.resolveChain := by
  unfold resolveChain
  cases hchain : c.spec.certificateChain with
  | none => exact .pure rfl
  | some ref =>
    refine .bind (.resolve _ _ _ _ (.same _)) fun value value' hvalue => .pure ?_
    have hsame : value'.isEmpty = value.isEmpty := hvalue.1
    have hlength := hvalue.2 (.inr hchain)
    simp only [nonEmpty, Option.filter_some, hsame]
    cases value.isEmpty with
    | true => rfl
    | false => exact congrArg some hlength

theorem importRequest_mirrors :
    Hook.Mirrors c.importLikeness
      (fun r r' => Call.LikeImport (.service (.importCertificate r))
        (.service (.importCertificate r')) ∧ r'.summary = r.summary)
      c.importRequest c.importRequest := by
  unfold importRequest
  refine .bind (importRef_mirrors _ _) fun ref ref' href => ?_
  refine .bind (importRef_mirrors _ _) fun keyRef keyRef' hkeyRef => ?_
  obtain ⟨rfl, href⟩ := href
  obtain ⟨rfl, -⟩ := hkeyRef
  refine .bind (resolveMaterial_mirrors _ _) fun certificate certificate' hcertificate => ?_
  refine .bind (resolveMaterial_mirrors _ _) fun key key' _ => ?_
  refine .bind resolveChain_mirrors fun chain chain' hchain => .pure ?_
  have hlength := hcertificate (.inl href)
  refine ⟨.material hlength hchain rfl, ?_⟩
  simp only [ImportRequest.summary, hlength, hchain]

theorem submit_mirrors {r r' : ImportRequest}
    (hcall : Call.LikeImport (.service (.importCertificate r)) (.service (.importCertificate r')))
    (hsummary : r'.summary = r.summary) :
    Hook.Mirrors c.importLikeness Eq (c.submit config r) (c.submit config r') := by
  unfold submit
  rw [hsummary]
  have himport : Hook.Mirrors c.importLikeness (fun arn arn' : String => arn' = arn)
      (c.importSite.service (.importCertificate r)) (c.importSite.service (.importCertificate r')) :=
    .service _ (.importCertificate r) (.importCertificate r') rfl rfl hcall
  refine .bind (.log _) fun _ _ _ => .bind himport fun arn arn' harn => ?_
  rw [harn]
  exact .bind (.log _) fun _ _ _ => .bind (.wait _) fun _ _ _ => .pure rfl

theorem importHook_mirrors (config : Config) (c : Certificate) :
    Hook.Mirrors c.importLikeness Eq (importHook config c) (importHook config c) := by
  cases hmode : c.mode with
  | error reason =>
    unfold importHook
    rw [hmode]
    exact .throw _
  | ok mode =>
    cases mode with
    | imported =>
      rw [importHook_of_imported hmode]
      refine .bind (.log _) fun _ _ _ => .bind importRequest_mirrors fun r r' h => ?_
      exact submit_mirrors h.1 h.2
    | requested =>
      unfold importHook
      rw [hmode]
      exact .pure rfl
    | unspecified =>
      unfold importHook
      rw [hmode]
      exact .pure rfl

/-! ## Nothing comes through -/

/-- Two runs of the export whose answers agree but for the passphrase and for private keys that can
both be read, or both not, end with the same result, log and records, and differ in no call but the
export's passphrase and the private key that is written. So do two runs of the import whose answers
agree but for the private key and for certificates and chains of the same length, and they differ in
no call but the import's material. -/
theorem secrets_unseen (config : Config) (c : Certificate) (world : Collaborators σ)
    (world' : Collaborators τ) (s : Session σ) (t : Session τ) :
    (Session.Twins (c.exportLikeness config) s t →
      (∀ step ∈ (Session.trace world (exportHook config c) s).zip
          (Session.trace world' (exportHook config c) t),
        (c.exportLikeness config).Meets world world' step) →
      (Session.run world' (exportHook config c) t).1 =
          (Session.run world (exportHook config c) s).1 ∧
        Session.Twins (c.exportLikeness config) (Session.run world (exportHook config c) s).2
          (Session.run world' (exportHook config c) t).2) ∧
    (Session.Twins c.importLikeness s t →
      (∀ step ∈ (Session.trace world (importHook config c) s).zip
          (Session.trace world' (importHook config c) t),
        c.importLikeness.Meets world world' step) →
      (Session.run world' (importHook config c) t).1 =
          (Session.run world (importHook config c) s).1 ∧
        Session.Twins c.importLikeness (Session.run world (importHook config c) s).2
          (Session.run world' (importHook config c) t).2) :=
  ⟨Session.run_mirrors (exportHook_mirrors config c),
    Session.run_mirrors (importHook_mirrors config c)⟩

/-! ## Two passphrases -/

/-- Secrets that are the same wherever they are referred to, and a service that hands out the
private key under whatever passphrase it is given. -/
def vault (secret : SecretRef → String) (pem : Bytes → String) : Collaborators Unit := fun c _ =>
  let answer : c.Answer :=
    match c with
    | .secret (.resolve _ ref) => secret ref
    | .secret (.write _ _ _ _) => ()
    | .service (.importCertificate _) => "arn:web"
    | .service (.exportCertificate _ passphrase) =>
      .exported { certificate := "CERT", chain := some "CHAIN", privateKey := pem passphrase }
    | .service (.addTags _ _) => ()
    | .service (.removeTags _ _) => ()
    | .service (.listTags _) => (∅ : TagSet)
  (⟨.returns answer, false⟩, ())

theorem vault_meets_export {secret secret' : SecretRef → String} {pem pem' : Bytes → String}
    {key key' : String} (hsecret : ∀ ref, (secret' ref).isEmpty = (secret ref).isEmpty)
    (hpem : ∀ p, decryptKey (Bytes.ofText (pem p)) p none = .ok key)
    (hpem' : ∀ p, decryptKey (Bytes.ofText (pem' p)) p none = .ok key')
    (step : (Call × Unit) × (Call × Unit)) :
    ((exporting "").exportLikeness {}).Meets (vault secret pem) (vault secret' pem') step := by
  have hlike : ∀ p p', ExportAnswer.LikeKey none p p'
      (.exported { certificate := "CERT", chain := some "CHAIN", privateKey := pem p })
      (.exported { certificate := "CERT", chain := some "CHAIN", privateKey := pem' p' }) := by
    intro p p'
    refine .exported rfl rfl ?_
    simp only [hpem, hpem']
    rfl
  obtain ⟨⟨left, _⟩, ⟨right, _⟩⟩ := step
  intro hcall
  refine ⟨.returns ?_, rfl⟩
  cases hcall with
  | passphrase arn p p' => exact hlike p p'
  | privateKey => exact trivial
  | same =>
    cases left with
    | secret c =>
      cases c with
      | resolve ns ref => exact hsecret ref
      | write => exact trivial
    | service c =>
      cases c with
      | exportCertificate arn p => exact hlike p p
      | _ => exact trivial

theorem vault_meets_import {secret secret' : SecretRef → String} {pem pem' : Bytes → String}
    (hsecret : ∀ ref, (secret' ref).isEmpty = (secret ref).isEmpty)
    (hlength : ∀ ref, importing.spec.certificate = some ref →
      (Bytes.ofText (secret' ref)).length = (Bytes.ofText (secret ref)).length)
    (step : (Call × Unit) × (Call × Unit)) :
    importing.importLikeness.Meets (vault secret pem) (vault secret' pem') step := by
  obtain ⟨⟨left, _⟩, ⟨right, _⟩⟩ := step
  intro hcall
  refine ⟨.returns ?_, rfl⟩
  cases hcall with
  | material => rfl
  | same =>
    cases left with
    | secret c =>
      cases c with
      | resolve ns ref => exact ⟨hsecret ref, fun h => hlength ref (h.resolve_right nofun)⟩
      | write => exact trivial
    | service c =>
      cases c with
      | importCertificate => rfl
      | _ => exact trivial

def firstVault : SecretRef → String := fun ref => if ref.key = "tls.crt" then "CERT" else "pw"

def secondVault : SecretRef → String :=
  fun ref => if ref.key = "tls.crt" then "TREC" else "passphrase"

/-- Two vaults with other passphrases, other private keys and other certificates serve the same
resources, and only the secrets tell. -/
theorem vaults_unseen :
    ∃ (pem pem' : Bytes → String) (key key' : String), key' ≠ key ∧
      (∀ p, decryptKey (Bytes.ofText (pem p)) p none = .ok key) ∧
      (∀ p, decryptKey (Bytes.ofText (pem' p)) p none = .ok key') ∧
      (Session.run (vault secondVault pem') (exportHook {} (exporting "")) { world := () }).1 =
        (Session.run (vault firstVault pem) (exportHook {} (exporting "")) { world := () }).1 ∧
      Session.Twins ((exporting "").exportLikeness {})
        (Session.run (vault firstVault pem) (exportHook {} (exporting "")) { world := () }).2
        (Session.run (vault secondVault pem') (exportHook {} (exporting "")) { world := () }).2 ∧
      (Session.run (vault secondVault pem') (importHook {} importing) { world := () }).1 =
        (Session.run (vault firstVault pem) (importHook {} importing) { world := () }).1 ∧
      Session.Twins importing.importLikeness
        (Session.run (vault firstVault pem) (importHook {} importing) { world := () }).2
        (Session.run (vault secondVault pem') (importHook {} importing) { world := () }).2 := by
  choose pem hpem using exists_decryptKey_emptyKey
  choose pem' hpem' using exists_decryptKey_shortKey
  have hempty : ∀ ref, (secondVault ref).isEmpty = (firstVault ref).isEmpty := by
    intro ref
    simp only [firstVault, secondVault]
    split <;> decide +kernel
  have hlength : ∀ ref, importing.spec.certificate = some ref →
      (Bytes.ofText (secondVault ref)).length = (Bytes.ofText (firstVault ref)).length := by
    intro ref h
    obtain rfl := Option.some.inj h
    decide +kernel
  have hstart (like : Likeness) :
      Session.Twins like ({ world := () } : Session Unit) ({ world := () } : Session Unit) :=
    ⟨rfl, .nil, rfl, rfl, rfl⟩
  have hexport := (secrets_unseen {} (exporting "") (vault firstVault pem)
    (vault secondVault pem') { world := () } { world := () }).1 (hstart _)
    fun step _ => vault_meets_export hempty hpem hpem' step
  have himport := (secrets_unseen {} importing (vault firstVault pem) (vault secondVault pem')
    { world := () } { world := () }).2 (hstart _)
    fun step _ => vault_meets_import hempty hlength step
  exact ⟨pem, pem', _, _, shortKey_toText_ne, hpem, hpem', hexport.1, hexport.2, himport⟩

end Certificate

end CertSync
