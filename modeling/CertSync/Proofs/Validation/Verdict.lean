import CertSync.Validation

/-!
# The rules of validation

There are six rules, in an order. A resource that keeps them all is accepted, in the mode that its
fields settle, and any other is refused for the first rule that it breaks.
-/

namespace CertSync

/-! ## The fields that settle the mode -/

inductive ModeField where
  | certificate
  | certificateChain
  | privateKey
  | domainName
  | domainValidationOptions
  | keyAlgorithm
  | subjectAlternativeNames
  | options
deriving DecidableEq

namespace ModeField

def all : List ModeField :=
  [certificate, certificateChain, privateKey, domainName, domainValidationOptions, keyAlgorithm,
    subjectAlternativeNames, options]

theorem mem_all (field : ModeField) : field ∈ all := by
  cases field <;> decide

def name : ModeField → String
  | certificate => "certificate"
  | certificateChain => "certificateChain"
  | privateKey => "privateKey"
  | domainName => "domainName"
  | domainValidationOptions => "domainValidationOptions"
  | keyAlgorithm => "keyAlgorithm"
  | subjectAlternativeNames => "subjectAlternativeNames"
  | options => "options"

/-- The one mode that the field goes with. -/
def mode : ModeField → AcquisitionMode
  | certificate | certificateChain | privateKey => .imported
  | domainName | domainValidationOptions | keyAlgorithm | subjectAlternativeNames | options =>
    .requested

def IsSet (s : CertificateSpec) : ModeField → Prop
  | certificate => s.certificate ≠ none
  | certificateChain => s.certificateChain ≠ none
  | privateKey => s.privateKey ≠ none
  | domainName => s.domainName ≠ none
  | domainValidationOptions => s.domainValidationOptions ≠ []
  | keyAlgorithm => s.keyAlgorithm ≠ none
  | subjectAlternativeNames => s.subjectAlternativeNames ≠ []
  | options => s.options ≠ none

instance (s : CertificateSpec) : DecidablePred (IsSet s) := fun field =>
  match field with
  | certificate => inferInstanceAs (Decidable (s.certificate ≠ none))
  | certificateChain => inferInstanceAs (Decidable (s.certificateChain ≠ none))
  | privateKey => inferInstanceAs (Decidable (s.privateKey ≠ none))
  | domainName => inferInstanceAs (Decidable (s.domainName ≠ none))
  | domainValidationOptions => inferInstanceAs (Decidable (s.domainValidationOptions ≠ []))
  | keyAlgorithm => inferInstanceAs (Decidable (s.keyAlgorithm ≠ none))
  | subjectAlternativeNames => inferInstanceAs (Decidable (s.subjectAlternativeNames ≠ []))
  | options => inferInstanceAs (Decidable (s.options ≠ none))

/-- The fields of a mode that are set. -/
def listed (mode : AcquisitionMode) (s : CertificateSpec) : List ModeField :=
  all.filter fun field => field.mode = mode ∧ field.IsSet s

theorem mem_listed {mode : AcquisitionMode} {s : CertificateSpec} {field : ModeField} :
    field ∈ listed mode s ↔ field.mode = mode ∧ field.IsSet s := by
  simp [listed, mem_all]

end ModeField

namespace CertificateSpec

variable (s : CertificateSpec)

theorem importFields_eq :
    s.importFields = (ModeField.listed .imported s).map ModeField.name := by
  unfold importFields ModeField.listed
  cases hc : s.certificate <;> cases hh : s.certificateChain <;> cases hk : s.privateKey <;>
    simp [setFields, ModeField.all, ModeField.mode, ModeField.IsSet, ModeField.name, hc, hh, hk]

theorem requestFields_eq :
    s.requestFields = (ModeField.listed .requested s).map ModeField.name := by
  unfold requestFields ModeField.listed
  cases hd : s.domainName <;> cases hv : s.domainValidationOptions <;>
    cases hk : s.keyAlgorithm <;> cases hs : s.subjectAlternativeNames <;>
    cases ho : s.options <;>
    simp [setFields, ModeField.all, ModeField.mode, ModeField.IsSet, ModeField.name, hd, hv, hk, hs,
      ho]

end CertificateSpec

/-! ## The rules -/

/-- Some field that goes with the mode is set. -/
def Certificate.Sets (c : Certificate) (mode : AcquisitionMode) : Prop :=
  ∃ field : ModeField, field.mode = mode ∧ field.IsSet c.spec

theorem Certificate.sets_iff (c : Certificate) (mode : AcquisitionMode) :
    c.Sets mode ↔ ModeField.listed mode c.spec ≠ [] := by
  simp only [Sets, ← ModeField.mem_listed]
  exact ⟨fun ⟨_, hfield⟩ => List.ne_nil_of_mem hfield, List.exists_mem_of_ne_nil _⟩

instance (c : Certificate) : DecidablePred c.Sets :=
  fun mode => decidable_of_iff _ (c.sets_iff mode).symm

inductive Rule where
  | oneMode
  | keyToImport
  | someMode
  | optionLimit
  | exportPassphrase
  | exportDestination
deriving DecidableEq

namespace Rule

def inOrder : List Rule :=
  [oneMode, keyToImport, someMode, optionLimit, exportPassphrase, exportDestination]

variable (c : Certificate)

def Broken : Rule → Prop
  | oneMode => c.Sets .imported ∧ c.Sets .requested
  | keyToImport => c.Sets .imported ∧ c.spec.privateKey = none
  | someMode => ¬c.Sets .imported ∧ ¬c.Sets .requested
  | optionLimit =>
    (c.spec.certificateAuthorityArn = none ∨ c.spec.certificateAuthorityArn = some "") ∧
      5 < c.spec.domainValidationOptions.length
  | exportPassphrase => c.spec.exportTo ≠ none ∧ c.spec.exportPassphrase = none
  | exportDestination =>
    ∃ target ∈ c.spec.exportTo, ∀ ch ∈ target.name.toList, Text.isBlank ch = true

instance : DecidablePred (Broken c) := fun rule =>
  match rule with
  | oneMode => inferInstanceAs (Decidable (_ ∧ _))
  | keyToImport => inferInstanceAs (Decidable (_ ∧ _))
  | someMode => inferInstanceAs (Decidable (_ ∧ _))
  | optionLimit => inferInstanceAs (Decidable ((_ ∨ _) ∧ _))
  | exportPassphrase => inferInstanceAs (Decidable (_ ∧ _))
  | exportDestination => inferInstanceAs (Decidable (∃ target ∈ c.spec.exportTo, _))

/-- What is reported of the rule when it is broken. -/
def reason : Rule → TerminalReason
  | oneMode => .conflictingMode ((ModeField.listed .imported c.spec).map ModeField.name)
      ((ModeField.listed .requested c.spec).map ModeField.name)
  | keyToImport => .missingImportField "privateKey"
  | someMode => .missingAcquisitionMode
  | optionLimit => .tooManyValidationOptions c.spec.domainValidationOptions.length 5
  | exportPassphrase => .missingExportPassphrase
  | exportDestination => .missingExportDestination

/-- The check of one rule. -/
def verify (rule : Rule) : Except TerminalReason Unit :=
  if rule.Broken c then .error (rule.reason c) else .ok ()

theorem verify_bind {α : Type} (rule : Rule) (next : Unit → Except TerminalReason α) :
    (rule.verify c >>= next) = if rule.Broken c then .error (rule.reason c) else next () := by
  unfold verify
  split <;> rfl

theorem forM_verify (rules : List Rule) :
    forM rules (verify c) =
      match rules.find? fun rule => rule.Broken c with
      | some rule => .error (rule.reason c)
      | none => .ok () := by
  induction rules with
  | nil => rfl
  | cons rule rules ih =>
    rw [List.forM_cons, List.find?_cons, verify_bind, ih]
    by_cases hrule : rule.Broken c <;> simp [hrule]

end Rule

namespace Certificate

variable (c : Certificate)

/-! ## The checks are those of the rules -/

theorem importFields_isEmpty : c.spec.importFields.isEmpty = decide (¬c.Sets .imported) := by
  rw [CertificateSpec.importFields_eq, Bool.eq_iff_iff]
  simp [sets_iff]

theorem requestFields_isEmpty : c.spec.requestFields.isEmpty = decide (¬c.Sets .requested) := by
  rw [CertificateSpec.requestFields_eq, Bool.eq_iff_iff]
  simp [sets_iff]

theorem isPublic_iff :
    c.spec.isPublic = true ↔
      c.spec.certificateAuthorityArn = none ∨ c.spec.certificateAuthorityArn = some "" := by
  unfold CertificateSpec.isPublic nonEmpty
  cases c.spec.certificateAuthorityArn <;> simp

theorem mode_eq :
    c.mode = (do
      Rule.oneMode.verify c
      Rule.keyToImport.verify c
      return if c.Sets .imported then .imported
        else if c.Sets .requested then .requested
        else .unspecified) := by
  unfold mode
  simp only [importFields_isEmpty, requestFields_isEmpty, Rule.verify_bind, Rule.Broken,
    Rule.reason]
  by_cases himport : c.Sets .imported <;> by_cases hrequest : c.Sets .requested <;>
    simp [himport, hrequest, CertificateSpec.importFields_eq, CertificateSpec.requestFields_eq,
      pure, Except.pure]

theorem checkPublicOptions_eq : c.checkPublicOptions = Rule.optionLimit.verify c := by
  unfold checkPublicOptions
  simp only [isPublic_iff]
  rfl

theorem checkExportOptions_eq :
    c.checkExportOptions = (do
      Rule.exportPassphrase.verify c
      Rule.exportDestination.verify c) := by
  unfold checkExportOptions
  rw [Rule.verify_bind]
  cases htarget : c.spec.exportTo <;>
    simp [Rule.verify, Rule.Broken, Rule.reason, htarget, Text.allBlank]

theorem check_eq :
    c.check = (do
      forM Rule.inOrder (Rule.verify c)
      return if c.Sets .imported then .imported else .requested) := by
  unfold check
  rw [mode_eq, checkPublicOptions_eq, checkExportOptions_eq]
  simp only [Rule.inOrder, List.forM_cons, List.forM_nil, bind_assoc, pure_bind]
  rw [Rule.verify_bind c .someMode]
  -- The first two rules stand in front of both sides. The third settles which mode is returned.
  by_cases hsome : Rule.someMode.Broken c
  · have ⟨himport, hrequest⟩ : ¬c.Sets .imported ∧ ¬c.Sets .requested := hsome
    simp [hsome, himport, hrequest]
    rfl
  · by_cases himport : c.Sets .imported
    · simp [hsome, himport]
    · have hrequest : c.Sets .requested := Decidable.byContradiction fun h => hsome ⟨himport, h⟩
      simp [hsome, himport, hrequest]

/-! ## The verdict -/

def firstBroken? : Option Rule := Rule.inOrder.find? fun rule => rule.Broken c

/-- What is checked of the fields besides the mode. -/
structure Complete : Prop where
  options : c.spec.certificateAuthorityArn = none ∨ c.spec.certificateAuthorityArn = some "" →
    c.spec.domainValidationOptions.length ≤ 5
  target : ∀ target, c.spec.exportTo = some target →
    c.spec.exportPassphrase ≠ none ∧ ∃ ch ∈ target.name.toList, Text.isBlank ch = false

/-- Every rule is kept. -/
structure Valid : Prop where
  oneMode : ¬(c.Sets .imported ∧ c.Sets .requested)
  keyToImport : c.Sets .imported → c.spec.privateKey ≠ none
  someMode : c.Sets .imported ∨ c.Sets .requested
  complete : c.Complete

variable {c}

theorem complete_iff :
    c.Complete ↔ ¬Rule.optionLimit.Broken c ∧ ¬Rule.exportPassphrase.Broken c ∧
      ¬Rule.exportDestination.Broken c := by
  constructor
  · intro ⟨hoptions, htarget⟩
    refine ⟨fun ⟨hpublic, hlimit⟩ => Nat.not_lt.mpr (hoptions hpublic) hlimit, ?_, ?_⟩
    · rintro ⟨hset, hpassphrase⟩
      obtain ⟨target, hsome⟩ := Option.ne_none_iff_exists'.mp hset
      exact (htarget target hsome).1 hpassphrase
    · rintro ⟨target, hsome, hblank⟩
      obtain ⟨ch, hch, hvisible⟩ := (htarget target hsome).2
      exact Bool.false_ne_true (hvisible.symm.trans (hblank ch hch))
  · intro ⟨hlimit, hpassphrase, hdestination⟩
    refine ⟨fun hpublic => Nat.not_lt.mp fun h => hlimit ⟨hpublic, h⟩, fun target hsome => ⟨?_, ?_⟩⟩
    · exact fun hnone => hpassphrase ⟨by simp [hsome], hnone⟩
    · have hvisible : ¬∀ ch ∈ target.name.toList, Text.isBlank ch = true :=
        fun hblank => hdestination ⟨target, hsome, hblank⟩
      simpa using hvisible

theorem firstBroken?_eq_none_iff : c.firstBroken? = none ↔ c.Valid := by
  have hkept : c.firstBroken? = none ↔ ∀ rule ∈ Rule.inOrder, ¬rule.Broken c := by
    simp [firstBroken?]
  rw [hkept]
  simp only [Rule.inOrder, List.forall_mem_cons, List.not_mem_nil, false_implies, implies_true,
    and_true]
  constructor
  · rintro ⟨hone, hkey, hsome, hcomplete⟩
    exact ⟨hone, fun himport hnone => hkey ⟨himport, hnone⟩,
      Decidable.byContradiction fun h => hsome (not_or.mp h), complete_iff.mpr hcomplete⟩
  · rintro ⟨hone, hkey, hsome, hcomplete⟩
    exact ⟨hone, fun h => hkey h.1 h.2, fun h => hsome.elim h.1 h.2, complete_iff.mp hcomplete⟩

theorem check_of_firstBroken :
    c.check = match c.firstBroken? with
      | some rule => .error (rule.reason c)
      | none => .ok (if c.Sets .imported then .imported else .requested) := by
  rw [check_eq, Rule.forM_verify]
  unfold firstBroken?
  cases Rule.inOrder.find? fun rule => rule.Broken c <;> rfl

theorem validate_of_firstBroken :
    c.validate = match c.firstBroken? with
      | some rule => .error ⟨"validate", c.resourceKey, .terminal (rule.reason c)⟩
      | none => .ok (if c.Sets .imported then .imported else .requested) := by
  unfold validate
  rw [check_of_firstBroken]
  cases c.firstBroken? <;> rfl

/-- A resource that keeps every rule is accepted, in the one mode that it has fields of. Any other
is refused for good, for the first rule that it breaks. -/
theorem validate_verdict (c : Certificate) :
    (c.validate = .ok .imported ↔
      c.Sets .imported ∧ ¬c.Sets .requested ∧ c.spec.privateKey ≠ none ∧ c.Complete) ∧
    (c.validate = .ok .requested ↔
      c.Sets .requested ∧ ¬c.Sets .imported ∧ c.Complete) ∧
    c.validate ≠ .ok .unspecified ∧
    ∀ e, c.validate = .error e ↔
      ∃ rule, c.firstBroken? = some rule ∧
        e = ⟨"validate", c.resourceKey, .terminal (rule.reason c)⟩ := by
  rw [validate_of_firstBroken]
  cases hfirst : c.firstBroken? with
  | some rule =>
    have hbroken : ¬c.Valid := by
      rw [← firstBroken?_eq_none_iff, hfirst]
      exact Option.some_ne_none rule
    refine ⟨⟨nofun, ?_⟩, ⟨nofun, ?_⟩, nofun, fun e => ⟨?_, ?_⟩⟩
    · rintro ⟨himport, hrequest, hkey, hcomplete⟩
      exact absurd ⟨fun h => hrequest h.2, fun _ => hkey, .inl himport, hcomplete⟩ hbroken
    · rintro ⟨hrequest, himport, hcomplete⟩
      exact absurd ⟨fun h => himport h.1, fun h => absurd h himport, .inr hrequest, hcomplete⟩
        hbroken
    · rintro ⟨⟩
      exact ⟨rule, rfl, rfl⟩
    · rintro ⟨_, ⟨⟩, rfl⟩
      rfl
  | none =>
    obtain ⟨hone, hkey, hsome, hcomplete⟩ := firstBroken?_eq_none_iff.mp hfirst
    by_cases himport : c.Sets .imported
    · have hrequest : ¬c.Sets .requested := fun h => hone ⟨himport, h⟩
      simp [himport, hrequest, hkey himport, hcomplete]
    · have hrequest : c.Sets .requested := hsome.resolve_left himport
      simp [himport, hrequest, hcomplete]

/-- Fields of both modes are reported before the key that is missing and the name that is blank. -/
example : (firstBroken? {
      metadata := {}
      spec := {
        domainName := some "a.example"
        certificate := some ⟨"imported", none, "tls.crt"⟩
        exportTo := some ⟨"web", " ", "tls.crt"⟩ } }) = some .oneMode := by decide

end Certificate

end CertSync
