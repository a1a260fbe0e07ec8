import CertSync.Drift.Issuance
import CertSync.Proofs.Time.Layout

/-!
# What one comparison records

A comparison records an issuance or nothing. What it records shows both times of issue, in the
layout of RFC 3339, so that two of them look the same only if they are.
-/

namespace CertSync

/-- The time of issue in the status. Where there is no status there is no time either. -/
inductive Certificate.IssuedAt (c : Certificate) : Option Instant → Prop
  | unobserved (h : c.status = none) : IssuedAt c none
  | observed {status : CertificateStatus} {t : Option Instant} (h : c.status = some status)
      (htime : status.issuedAt = t) : IssuedAt c t

/-- From one observation to the next the certificate was issued, or issued anew. -/
inductive Certificate.Issues (a b : Certificate) : Prop
  | first {status : CertificateStatus} (hundated : a.IssuedAt none)
      (hstatus : b.status = some status) (hissued : status.kind = some .issued)
  | renewed {earlier later : Instant} (hearlier : a.IssuedAt (some earlier))
      (hlater : b.IssuedAt (some later)) (hne : earlier ≠ later)

/-- A side of a difference shows a time of issue, or that there is none. -/
inductive Difference.Shows : Option Instant → Option Json → Prop
  | absent : Shows none none
  | present {t : Instant} {text : String} (hwritten : t.IsRfc3339 text)
      (hread : Instant.ofText? text = some t) : Shows (some t) (some (.text text))

namespace Certificate

theorem issuedAt_issuedAt? (c : Certificate) : c.IssuedAt c.issuedAt? := by
  unfold issuedAt?
  cases hstatus : c.status with
  | none => exact .unobserved hstatus
  | some status => exact .observed hstatus rfl

theorem IssuedAt.eq {c : Certificate} {t : Option Instant} (h : c.IssuedAt t) :
    c.issuedAt? = t := by
  cases h with
  | unobserved h => rw [issuedAt?, h]; rfl
  | observed h htime => rw [issuedAt?, h]; exact htime

theorem issues_iff {a b : Certificate} : a.Issues b ↔
    a.issuedAt? = none ∧ b.statusKind? = some .issued ∨
      ∃ earlier later, a.issuedAt? = some earlier ∧ b.issuedAt? = some later ∧
        earlier ≠ later := by
  constructor
  · intro h
    cases h with
    | first hundated hstatus hissued =>
      exact .inl ⟨hundated.eq, Option.bind_eq_some_iff.mpr ⟨_, hstatus, hissued⟩⟩
    | renewed hearlier hlater hne => exact .inr ⟨_, _, hearlier.eq, hlater.eq, hne⟩
  · rintro (⟨hundated, hkind⟩ | ⟨earlier, later, hearlier, hlater, hne⟩)
    · obtain ⟨status, hstatus, hissued⟩ := Option.bind_eq_some_iff.mp hkind
      exact .first (hundated ▸ a.issuedAt_issuedAt?) hstatus hissued
    · exact .renewed (hearlier ▸ a.issuedAt_issuedAt?) (hlater ▸ b.issuedAt_issuedAt?) hne

theorem issuanceDiffers_eq_true_iff {a b : Certificate} :
    a.issuanceDiffers b = true ↔ a.Issues b := by
  rw [issues_iff]
  unfold issuanceDiffers
  cases ha : a.issuedAt? with
  | none => simp
  | some earlier => cases hb : b.issuedAt? <;> simp

end Certificate

theorem Difference.Shows.unique {t t' : Option Instant} {side : Option Json}
    (h : Shows t side) (h' : Shows t' side) : t = t' := by
  cases h with
  | absent => cases h'; rfl
  | present _ hread =>
    cases h' with
    | present _ hread' => exact hread.symm.trans hread'

namespace Delta

/-- How a comparison writes a time of issue down. -/
def dated (t : Option Instant) : Option Json := t.map fun t => .text t.toOffsetText

theorem compareIssuedAt_of_issues {a b : Certificate} (h : a.Issues b) (delta : Delta) :
    delta.compareIssuedAt a b =
      ⟨delta.differences ++ [⟨issuedAtPath, dated a.issuedAt?, dated b.issuedAt?⟩]⟩ :=
  if_pos (Certificate.issuanceDiffers_eq_true_iff.mpr h)

theorem compareIssuedAt_of_not_issues {a b : Certificate} (h : ¬a.Issues b) (delta : Delta) :
    delta.compareIssuedAt a b = delta :=
  if_neg fun hdiffers => h (Certificate.issuanceDiffers_eq_true_iff.mp hdiffers)

def newYear : Instant := (Instant.ofText? "2025-01-01T00:00:00Z").get (by decide +kernel)

/-- A certificate of which only these two are known. -/
def observed (kind : StatusKind) (issuedAt : Option Instant) : Certificate where
  metadata := {}
  spec := {}
  status := some { kind := some kind, issuedAt }

/-- A certificate of which nothing was observed. -/
def unobserved : Certificate where
  metadata := {}
  spec := {}

end Delta

end CertSync
