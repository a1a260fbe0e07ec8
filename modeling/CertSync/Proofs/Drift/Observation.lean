import CertSync.Drift.Issuance

/-!
# Observations that follow one another

A driver looks at a certificate again and again, and compares what it sees with what it saw before.
A comparison looks at the kind of status and at the time of issue only. Where neither changes nothing
is found, with one exception: a certificate that is issued, but not at any known time, counts as
issued for the first time at every look.
-/

namespace CertSync

namespace Certificate

/-- Issued at no known time, as a certificate is that was imported. -/
def IsUndated (c : Certificate) : Prop := c.statusKind? = some .issued ∧ c.issuedAt? = none

instance (c : Certificate) : Decidable c.IsUndated := by unfold IsUndated; infer_instance

/-- Neither the kind of status nor the time of issue is another one. -/
def Unchanged (a b : Certificate) : Prop :=
  a.statusKind? = b.statusKind? ∧ a.issuedAt? = b.issuedAt?

theorem issuanceDiffers_iff {a b : Certificate} (h : a.Unchanged b) :
    a.issuanceDiffers b = true ↔ a.IsUndated := by
  obtain ⟨hkind, htime⟩ := h
  unfold issuanceDiffers IsUndated
  rw [hkind, htime]
  cases b.issuedAt? <;> simp

/-- A certificate of which only the kind of its status is known. -/
def ofKind (kind : StatusKind) : Certificate where
  metadata := {}
  spec := {}
  status := some { kind := some kind }

end Certificate

namespace Delta

/-- Each observation compared with the next one. -/
def compareAll (delta : Delta) : List Certificate → Delta
  | a :: b :: rest => (delta.compareIssuedAt a b).compareAll (b :: rest)
  | _ => delta

/-- What is found at a first issuance that goes on without a time of issue. -/
def undatedIssuance : Difference := ⟨issuedAtPath, none, none⟩

/-! ## One comparison -/

theorem compareIssuedAt_unchanged {a b : Certificate} (h : a.Unchanged b) (delta : Delta) :
    (delta.compareIssuedAt a b).differences =
      delta.differences ++ if a.IsUndated then [undatedIssuance] else [] := by
  unfold compareIssuedAt
  by_cases hundated : a.IsUndated
  · have hnone : b.issuedAt? = none := h.2.symm.trans hundated.2
    rw [if_pos ((Certificate.issuanceDiffers_iff h).mpr hundated), if_pos hundated]
    simp only [hnone, hundated.2]
    rfl
  · have hsame : ¬a.issuanceDiffers b = true :=
      fun hdiffers => hundated ((Certificate.issuanceDiffers_iff h).mp hdiffers)
    rw [if_neg hsame, if_neg hundated, List.append_nil]

theorem compareIssuedAt_self_eq_iff (delta : Delta) (x : Certificate) :
    delta.compareIssuedAt x x = delta ↔ ¬x.IsUndated := by
  have hstep := compareIssuedAt_unchanged (show x.Unchanged x from ⟨rfl, rfl⟩) delta
  constructor
  · intro hquiet hundated
    rw [hquiet, if_pos hundated] at hstep
    simp at hstep
  · intro hdated
    rw [if_neg hdated, List.append_nil] at hstep
    cases h : delta.compareIssuedAt x x with
    | mk differences => rw [h] at hstep; cases delta; exact congrArg mk hstep

/-! ## A run of comparisons -/

theorem compareAll_append (delta : Delta) (before : List Certificate) (x : Certificate)
    (after : List Certificate) :
    delta.compareAll (before ++ x :: after) =
      (delta.compareAll (before ++ [x])).compareAll (x :: after) := by
  induction before generalizing delta with
  | nil => rfl
  | cons a rest ih =>
    cases rest with
    | nil => rfl
    | cons b rest => exact ih (delta.compareIssuedAt a b)

theorem compareAll_unchanged {x : Certificate} {stable : List Certificate}
    (h : ∀ c ∈ stable, x.Unchanged c) (delta : Delta) :
    (delta.compareAll (x :: stable)).differences =
      delta.differences ++
        if x.IsUndated then List.replicate stable.length undatedIssuance else [] := by
  induction stable generalizing x delta with
  | nil => simp [compareAll]
  | cons c rest ih =>
    have hc : x.Unchanged c := h c (by simp)
    -- The next observation is as good a start as this one.
    have hrest : ∀ d ∈ rest, c.Unchanged d := by
      intro d hd
      have hx := h d (by simp [hd])
      exact ⟨hc.1.symm.trans hx.1, hc.2.symm.trans hx.2⟩
    have hundated : c.IsUndated ↔ x.IsUndated := by
      unfold Certificate.IsUndated
      rw [hc.1, hc.2]
    rw [compareAll, ih hrest, compareIssuedAt_unchanged hc, List.append_assoc]
    by_cases hx : x.IsUndated
    · rw [if_pos hx, if_pos hx, if_pos (hundated.mpr hx), List.length_cons, List.replicate_succ]
      rfl
    · rw [if_neg hx, if_neg hx, if_neg (fun hcu => hx (hundated.mp hcu))]
      rfl

/-- Wherever observations stop changing, what is found stays as it is just if the certificate is not
one that is issued at no known time. Of such a one every further look finds an issuance, and each
sends the certificate through an update. -/
theorem compareAll_quiet_iff (delta : Delta) (before : List Certificate) {x : Certificate}
    {stable : List Certificate} (h : ∀ c ∈ stable, x.Unchanged c) :
    (delta.compareAll (before ++ x :: stable)).differences =
        (delta.compareAll (before ++ [x])).differences ++
          (if x.IsUndated then List.replicate stable.length undatedIssuance else []) ∧
      (delta.compareIssuedAt x x = delta ↔ ¬x.IsUndated) ∧
      ((({} : Delta).compareIssuedAt x x).differentAt "Spec" = true ↔ x.IsUndated) := by
  refine ⟨?_, compareIssuedAt_self_eq_iff delta x, ?_⟩
  · rw [compareAll_append]
    exact compareAll_unchanged h _
  · have hstep := compareIssuedAt_unchanged (show x.Unchanged x from ⟨rfl, rfl⟩) {}
    have hroot : isBelow "Spec" undatedIssuance.path = true := by decide
    unfold differentAt
    rw [hstep]
    by_cases hundated : x.IsUndated
    · simp [hundated, hroot]
    · simp [hundated]

/-- A certificate that waits for its validation is quiet. Once it is issued at no known time, each
of two more looks finds an issuance. -/
theorem pending_quiet :
    let pending := Certificate.ofKind .pendingValidation
    let issued := Certificate.ofKind .issued
    (∀ delta : Delta, (delta.compareAll [issued, pending, pending]).differences =
        (delta.compareAll [issued, pending]).differences) ∧
      ∀ delta : Delta, (delta.compareAll [pending, issued, issued, issued]).differences =
        (delta.compareAll [pending, issued]).differences ++
          [undatedIssuance, undatedIssuance] := by
  intro pending issued
  constructor
  · intro delta
    have hstable : ∀ c ∈ [pending], pending.Unchanged c := by simp [Certificate.Unchanged]
    have hquiet := (compareAll_quiet_iff delta [issued] hstable).1
    have hdated : ¬pending.IsUndated := by decide
    rw [if_neg hdated, List.append_nil] at hquiet
    exact hquiet
  · intro delta
    have hstable : ∀ c ∈ [issued, issued], issued.Unchanged c := by simp [Certificate.Unchanged]
    have hagain := (compareAll_quiet_iff delta [pending] hstable).1
    have hundated : issued.IsUndated := by decide
    rw [if_pos hundated] at hagain
    exact hagain

/-- A certificate that is issued at no known time is not left alone. -/
theorem undated_not_quiet :
    ¬∀ (delta : Delta) (x : Certificate), delta.compareIssuedAt x x = delta := by
  intro hall
  have hundated : (Certificate.ofKind .issued).IsUndated := by decide
  exact (compareIssuedAt_self_eq_iff {} (.ofKind .issued)).mp (hall {} _) hundated

end Delta

end CertSync
