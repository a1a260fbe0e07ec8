import CertSync.Config.Environment
import CertSync.Proofs.Bytes.Basic
import CertSync.Proofs.Text.Decimal
import Mathlib.Data.Option.Basic
import Mathlib.Logic.Function.Basic

/-!
# What the environment sets

A setting has the value that the text of its own variable means, and its default where that means
nothing or is no text. So no variable reaches another setting, and a number is taken as it is
written or not at all.
-/

namespace CertSync

/-! ## Settings -/

inductive Setting where
  | postCreateDelay
  | exportCertificateKey
  | exportPrivateKeyKey
  | region
  | fieldManager
  | logLevel
  | logFormat
  | enableMetrics

namespace Setting

/-- The variable that is read for a setting. -/
def name : Setting → String
  | postCreateDelay => "POST_CREATE_DELAY_SECS"
  | exportCertificateKey => "EXPORT_CERTIFICATE_KEY"
  | exportPrivateKeyKey => "EXPORT_PRIVATE_KEY_KEY"
  | region => "AWS_REGION"
  | fieldManager => "FIELD_MANAGER"
  | logLevel => "LOG_LEVEL"
  | logFormat => "LOG_FORMAT"
  | enableMetrics => "ENABLE_METRICS"

abbrev Value : Setting → Type
  | postCreateDelay => UInt64
  | region => Option String
  | enableMetrics => Bool
  | _ => String

def get : (x : Setting) → Config → x.Value
  | postCreateDelay, c => c.postCreateDelay
  | exportCertificateKey, c => c.exportCertificateKey
  | exportPrivateKeyKey, c => c.exportPrivateKeyKey
  | region, c => c.region
  | fieldManager, c => c.fieldManager
  | logLevel, c => c.logLevel
  | logFormat, c => c.logFormat
  | enableMetrics, c => c.enableMetrics

/-- The text means this value for the setting. A number that does not fit means nothing, nor does a
blank region. -/
def Means : (x : Setting) → String → x.Value → Prop
  | postCreateDelay, s, n => Text.IsUnsigned s.toList n.toNat
  | region, s, r => (∃ c ∈ s.toList, Text.isBlank c = false) ∧ r = some s
  | enableMetrics, s, b => b = true ↔ s.toLower ∈ ["true", "1", "yes", "on"]
  | exportCertificateKey, s, t | exportPrivateKeyKey, s, t | fieldManager, s, t | logLevel, s, t
  | logFormat, s, t => t = s

/-- How the text of its variable is read for a setting. -/
def read? : (x : Setting) → String → Option x.Value
  | postCreateDelay, s => (Text.unsignedBelow? UInt64.size s).map UInt64.ofNat
  | region, s => if Text.allBlank s then none else some (some s)
  | enableMetrics, s => some (Environment.isYes s)
  | exportCertificateKey, s | exportPrivateKeyKey, s | fieldManager, s | logLevel, s
  | logFormat, s => some s

theorem name_injective : Function.Injective name := by
  intro x y h
  cases x
  all_goals cases y
  all_goals simp [name] at h ⊢

theorem read?_eq_some_iff {x : Setting} {s : String} {v : x.Value} :
    x.read? s = some v ↔ x.Means s v := by
  cases x with
  | postCreateDelay =>
    simp only [read?, Means, Option.map_eq_some_iff, Text.unsignedBelow?_eq_some_iff]
    constructor
    · rintro ⟨n, ⟨hn, hread⟩, rfl⟩
      rwa [UInt64.toNat_ofNat_of_lt' hn]
    · intro hread
      exact ⟨v.toNat, ⟨v.toNat_lt, hread⟩, UInt64.ofNat_toNat⟩
  | region =>
    simp only [read?, Means, Text.allBlank, List.all_eq_true]
    split_ifs with hblank
    · refine iff_of_false not_false ?_
      rintro ⟨⟨c, hc, hshown⟩, -⟩
      exact Bool.false_ne_true (hshown.symm.trans (hblank c hc))
    · have hshown : ∃ c ∈ s.toList, Text.isBlank c = false := by simpa using hblank
      rw [Option.some_inj, eq_comm, and_iff_right hshown]
  | enableMetrics =>
    rw [Means, ← List.contains_iff_mem, ← Bool.eq_iff_iff]
    exact Option.some_inj.trans eq_comm
  | _ => exact Option.some_inj.trans eq_comm

end Setting

/-! ## The configuration that is set -/

namespace Environment

theorem text?_eq_some_iff {env : Environment} {name s : String} :
    env.text? name = some s ↔ env name = some (Bytes.ofText s) := by
  simp only [text?, Option.bind_eq_bind, Option.bind_eq_some_iff, Bytes.toText?_eq_some_iff,
    exists_eq_right]

/-- The environment gives the setting this value. -/
def Gives (env : Environment) (x : Setting) (v : x.Value) : Prop :=
  ∃ s, env x.name = some (Bytes.ofText s) ∧ x.Means s v

/-- The number is written for the delay, whether or not it fits. -/
def WritesDelay (env : Environment) (n : Nat) : Prop :=
  ∃ s, env "POST_CREATE_DELAY_SECS" = some (Bytes.ofText s) ∧ Text.IsUnsigned s.toList n

def given? (env : Environment) (x : Setting) : Option x.Value := env.text? x.name >>= x.read?

theorem given?_eq_some_iff {env : Environment} {x : Setting} {v : x.Value} :
    env.given? x = some v ↔ env.Gives x v := by
  simp only [given?, Gives, Option.bind_eq_bind, Option.bind_eq_some_iff, text?_eq_some_iff,
    Setting.read?_eq_some_iff]

end Environment

namespace Config

theorem get_ofEnvironment (env : Environment) (x : Setting) :
    x.get (ofEnvironment env) = (env.given? x).getD (x.get {}) := by
  unfold Environment.given?
  cases htext : env.text? x.name
  all_goals cases x
  all_goals simp only [Setting.name] at htext
  all_goals simp only [Setting.get, ofEnvironment, Environment.seconds?, Environment.flag?, htext]
  case some.region s => cases hblank : Text.allBlank s <;> simp [Setting.read?, hblank]
  all_goals rfl

theorem get_ofEnvironment_eq_iff {env : Environment} {x : Setting} {v : x.Value} :
    x.get (ofEnvironment env) = v ↔ env.Gives x v ∨ v = x.get {} ∧ ∀ v', ¬env.Gives x v' := by
  simp only [get_ofEnvironment, Option.getD_eq_iff, Option.eq_none_iff_forall_ne_some, ne_eq,
    Environment.given?_eq_some_iff]
  rw [eq_comm (a := x.get {}), and_comm (a := ∀ v', ¬env.Gives x v')]

theorem get_ofEnvironment_congr {env env' : Environment} {x : Setting}
    (h : env' x.name = env x.name) : x.get (ofEnvironment env') = x.get (ofEnvironment env) := by
  simp only [get_ofEnvironment, Environment.given?, Environment.text?, h]

theorem ofEnvironment_congr {env env' : Environment}
    (h : ∀ name, env'.text? name = env.text? name) : ofEnvironment env' = ofEnvironment env := by
  simp only [ofEnvironment, Environment.seconds?, Environment.flag?, h]

theorem ofEnvironment_update_of_not_text (env : Environment) (name : String) {bytes : Bytes}
    (h : ∀ s, bytes ≠ Bytes.ofText s) :
    ofEnvironment (Function.update env name (some bytes)) =
      ofEnvironment (Function.update env name none) := by
  have hbytes : bytes.toText? = none :=
    Option.eq_none_iff_forall_ne_some.mpr fun s hs => h s (Bytes.toText?_eq_some_iff.mp hs)
  refine ofEnvironment_congr fun other => ?_
  by_cases hother : other = name
  · subst hother
    simp only [Environment.text?, Function.update_self, Option.bind_eq_bind, Option.bind_some,
      Option.bind_none, hbytes]
  · simp only [Environment.text?, Function.update_of_ne hother]

theorem exists_ofEnvironment (envs : Setting → Environment) :
    ∃ env, ∀ x : Setting, x.get (ofEnvironment env) = x.get (ofEnvironment (envs x)) :=
  ⟨Function.extend Setting.name (fun x => envs x x.name) fun _ => none, fun x =>
    get_ofEnvironment_congr (Setting.name_injective.extend_apply _ _ x)⟩

theorem postCreateDelay_eq_iff {env : Environment} {n : Nat} :
    (ofEnvironment env).postCreateDelay.toNat = n ↔
      n < 2 ^ 64 ∧ env.WritesDelay n ∨ n = 5 ∧ ∀ m < 2 ^ 64, ¬env.WritesDelay m := by
  have hlaw (v : UInt64) : (ofEnvironment env).postCreateDelay = v ↔
      env.WritesDelay v.toNat ∨ v = 5 ∧ ∀ v' : UInt64, ¬env.WritesDelay v'.toNat :=
    get_ofEnvironment_eq_iff (x := .postCreateDelay)
  constructor
  · rintro rfl
    rcases (hlaw _).mp rfl with hwrites | ⟨hdefault, hnone⟩
    · exact .inl ⟨UInt64.toNat_lt _, hwrites⟩
    · refine .inr ⟨congrArg UInt64.toNat hdefault, fun m hm hwrites => hnone (.ofNat m) ?_⟩
      rwa [UInt64.toNat_ofNat_of_lt' hm]
  · rintro (⟨hn, hwrites⟩ | ⟨rfl, hnone⟩)
    · have hfits : (UInt64.ofNat n).toNat = n := UInt64.toNat_ofNat_of_lt' hn
      rw [(hlaw (.ofNat n)).mpr (.inl (hfits.symm ▸ hwrites)), hfits]
    · rw [(hlaw 5).mpr (.inr ⟨rfl, fun v => hnone v.toNat v.toNat_lt⟩)]
      rfl

/-- Every setting has the value that its own variable gives it, or its default. So it sees no other
variable, and any values of the settings can be had together; a value that is no text counts as
none; and the delay is the number that is written for it if that is below `2 ^ 64`, and the default
in every other case. -/
theorem ofEnvironment_exact :
    (∀ (env : Environment) (x : Setting) (v : x.Value), x.get (ofEnvironment env) = v ↔
      env.Gives x v ∨ v = x.get {} ∧ ∀ v', ¬env.Gives x v') ∧
    (∀ (env env' : Environment) (x : Setting), env' x.name = env x.name →
      x.get (ofEnvironment env') = x.get (ofEnvironment env)) ∧
    (∀ envs : Setting → Environment, ∃ env, ∀ x : Setting,
      x.get (ofEnvironment env) = x.get (ofEnvironment (envs x))) ∧
    (∀ (env : Environment) (name : String) (bytes : Bytes), (∀ s, bytes ≠ Bytes.ofText s) →
      ofEnvironment (Function.update env name (some bytes)) =
        ofEnvironment (Function.update env name none)) ∧
    ∀ (env : Environment) (n : Nat), (ofEnvironment env).postCreateDelay.toNat = n ↔
      n < 2 ^ 64 ∧ env.WritesDelay n ∨ n = 5 ∧ ∀ m < 2 ^ 64, ¬env.WritesDelay m :=
  ⟨fun _ _ _ => get_ofEnvironment_eq_iff, fun _ _ _ => get_ofEnvironment_congr,
    exists_ofEnvironment, fun env name _ => ofEnvironment_update_of_not_text env name,
    fun _ _ => postCreateDelay_eq_iff⟩

/-- Only the delay is set, and the log level to a byte that starts no text. -/
def delayed (text : String) : Environment := fun name =>
  if name = "POST_CREATE_DELAY_SECS" then some (Bytes.ofText text)
  else if name = "LOG_LEVEL" then some [0xFF]
  else none

/-- The largest number that fits, with a sign and zeros, and the one after it. -/
theorem delayed_exact :
    (ofEnvironment (delayed "+0018446744073709551615")).postCreateDelay.toNat =
      18446744073709551615 ∧
    (ofEnvironment (delayed "18446744073709551616")).postCreateDelay.toNat = 5 ∧
    (ofEnvironment (delayed "")).logLevel = "INFO" := by
  obtain ⟨-, hown, -, hbroken, hdelay⟩ := ofEnvironment_exact
  refine ⟨(hdelay _ _).mpr (.inl ⟨by decide, _, rfl, ?_⟩),
    (hdelay _ _).mpr (.inr ⟨rfl, ?_⟩), ?_⟩
  · exact .signed (Text.isDecimal_iff.mpr ⟨by decide, List.all_eq_true.mp (by decide), by decide⟩)
  · rintro m hm ⟨s, hs, hread⟩
    have htext : "18446744073709551616" = s := Option.some.inj
      ((Bytes.toText?_ofText _).symm.trans (Bytes.toText?_eq_some_iff.mpr (Option.some.inj hs)))
    have hlarge : Text.IsUnsigned s.toList (2 ^ 64) := htext ▸
      .plain (Text.isDecimal_iff.mpr ⟨by decide, List.all_eq_true.mp (by decide), by decide⟩)
    exact absurd hm (hread.unique hlarge ▸ Nat.lt_irrefl _)
  · have hbyte (s : String) : [0xFF] ≠ Bytes.ofText s := fun h => by
      have hread := Bytes.toText?_eq_some_iff.mpr h
      have hnone : Bytes.toText? [0xFF] = none := by decide +kernel
      exact absurd (hnone.symm.trans hread) nofun
    let bare : Environment := fun _ => none
    have hone := hown (Function.update bare "LOG_LEVEL" (some [0xFF])) (delayed "") .logLevel rfl
    rw [hbroken bare "LOG_LEVEL" [0xFF] hbyte, Function.update_eq_self] at hone
    exact hone

end Config

end CertSync
