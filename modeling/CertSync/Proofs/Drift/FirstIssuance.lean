import CertSync.Proofs.Drift.Comparison
import CertSync.Proofs.Drift.Observation
import Mathlib.Data.List.Chain
import Mathlib.Data.List.Pairwise

/-!
# Which first issuances are found

A certificate that has no time of issue is observed until it is issued and has one. A comparison of
each observation with the next finds that, unless the time was there too early: an observation that
shows it, but not that the certificate is issued, is no issuance, and after it the time is no new
one.
-/

namespace CertSync

namespace Delta

/-- No observation shows an issuance since the one before it. -/
def Silent (seen : List Certificate) : Prop := seen.IsChain fun a b => ¬a.Issues b

/-- The time of issue came up in an observation of a certificate that was not issued yet. It stayed,
and nothing was found before. -/
inductive Premature (t : Instant) : List Certificate → Prop
  | split {before stay : List Certificate} {undated early : Certificate}
      (hsilent : Silent (before ++ [undated])) (hundated : undated.issuedAt? = none)
      (hearly : early.statusKind? ≠ some .issued)
      (hstay : ∀ c ∈ early :: stay, c.issuedAt? = some t) :
      Premature t (before ++ undated :: early :: stay)

/-! ## What all comparisons find -/

theorem silent_cons_cons {a b : Certificate} {rest : List Certificate} :
    Silent (a :: b :: rest) ↔ ¬a.Issues b ∧ Silent (b :: rest) := List.isChain_cons_cons

theorem compareAll_found (delta : Delta) (seen : List Certificate) :
    ∃ found, (delta.compareAll seen).differences = delta.differences ++ found ∧
      (∀ d ∈ found, d.path = issuedAtPath) ∧ (found = [] ↔ Silent seen) := by
  induction seen generalizing delta with
  | nil => exact ⟨[], (List.append_nil _).symm, by simp, iff_of_true rfl List.isChain_nil⟩
  | cons a rest ih =>
    cases rest with
    | nil =>
      exact ⟨[], (List.append_nil _).symm, by simp, iff_of_true rfl (List.isChain_singleton a)⟩
    | cons b rest =>
      obtain ⟨found, hfound, hpath, hsilent⟩ := ih (delta.compareIssuedAt a b)
      rw [compareAll, silent_cons_cons, ← hsilent]
      by_cases h : a.Issues b
      · rw [compareIssuedAt_of_issues h] at hfound ⊢
        refine ⟨_ :: found, hfound.trans (List.append_assoc ..), ?_,
          iff_of_false (List.cons_ne_nil _ _) fun hnone => hnone.1 h⟩
        rintro d (_ | ⟨_, hd⟩)
        · rfl
        · exact hpath d hd
      · rw [compareIssuedAt_of_not_issues h] at hfound ⊢
        exact ⟨found, hfound, hpath, (and_iff_right h).symm⟩

theorem differentAt_found {delta : Delta} {seen : List Certificate} {found : List Difference}
    (hfound : (delta.compareAll seen).differences = delta.differences ++ found)
    (hpath : ∀ d ∈ found, d.path = issuedAtPath) :
    (delta.compareAll seen).differentAt "Spec" = true ↔
      delta.differentAt "Spec" = true ∨ found ≠ [] := by
  have hroot : isBelow "Spec" issuedAtPath = true := by decide
  have hany : found.any (fun d => isBelow "Spec" d.path) = true ↔ found ≠ [] := by
    rw [List.any_eq_true]
    constructor
    · rintro ⟨d, hd, -⟩
      exact List.ne_nil_of_mem hd
    · intro hne
      obtain ⟨d, hd⟩ := List.exists_mem_of_ne_nil found hne
      exact ⟨d, hd, hpath d hd ▸ hroot⟩
  rw [differentAt, hfound, List.any_append, Bool.or_eq_true, hany]
  rfl

/-! ## Silent observations -/

theorem silent_of_dated {t : Instant} {seen : List Certificate}
    (h : ∀ c ∈ seen, c.issuedAt? = some t) : Silent seen := by
  refine List.Pairwise.isChain (List.pairwise_of_forall_mem_list fun a ha b hb hissues => ?_)
  rcases Certificate.issues_iff.mp hissues with
    ⟨hundated, -⟩ | ⟨earlier, later, hearlier, hlater, hne⟩
  · exact absurd ((h a ha).symm.trans hundated) (by simp)
  · exact hne (Option.some.inj (hearlier.symm.trans ((h a ha).trans ((h b hb).symm.trans hlater))))

theorem Premature.silent {t : Instant} {seen : List Certificate} (h : Premature t seen) :
    Silent seen := by
  cases h with
  | @split before stay undated early hsilent hundated hearly hstay =>
    refine List.isChain_append_cons_cons.mpr ⟨hsilent, fun hissues => ?_, silent_of_dated hstay⟩
    rcases Certificate.issues_iff.mp hissues with ⟨-, hissued⟩ | ⟨_, _, hearlier, -⟩
    · exact hearly hissued
    · exact absurd (hundated.symm.trans hearlier) (by simp)

theorem Premature.exists_early {t : Instant} {seen : List Certificate} (h : Premature t seen) :
    ∃ early ∈ seen, early.issuedAt? = some t ∧ early.statusKind? ≠ some .issued := by
  cases h with
  | @split before stay undated early hsilent hundated hearly hstay =>
    exact ⟨early, by simp, hstay early List.mem_cons_self, hearly⟩

/-- Silent observations keep a time of issue from where they have one. So they had it all along, or
there is one place where it came up. -/
theorem Silent.dated_or_premature {t : Instant} {seen : List Certificate} (hsilent : Silent seen)
    (hlast : ∀ last ∈ seen.getLast?, last.issuedAt? = some t) :
    (∀ c ∈ seen, c.issuedAt? = some t) ∨ Premature t seen := by
  suffices h : (∀ c ∈ seen, c.issuedAt? = some t) ∨
      ∃ before undated early stay, seen = before ++ undated :: early :: stay ∧
        undated.issuedAt? = none ∧ ∀ c ∈ early :: stay, c.issuedAt? = some t by
    refine h.imp_right ?_
    rintro ⟨before, undated, early, stay, rfl, hundated, hstay⟩
    obtain ⟨hbefore, hstep, -⟩ := List.isChain_append_cons_cons.mp hsilent
    refine .split hbefore hundated (fun hissued => ?_) hstay
    exact hstep (Certificate.issues_iff.mpr (.inl ⟨hundated, hissued⟩))
  induction seen with
  | nil => exact .inl (by simp)
  | cons x rest ih =>
    cases rest with
    | nil => exact .inl (by simpa using hlast)
    | cons y rest =>
      obtain ⟨hstep, hrest⟩ := silent_cons_cons.mp hsilent
      rcases ih hrest hlast with hdated | ⟨before, undated, early, stay, heq, hplace⟩
      · cases hx : x.issuedAt? with
        | none => exact .inr ⟨[], x, y, rest, rfl, hx, hdated⟩
        | some s =>
          have hy : y.issuedAt? = some t := hdated y List.mem_cons_self
          have hsame : s = t := by
            by_contra hne
            exact hstep (Certificate.issues_iff.mpr (.inr ⟨s, t, hx, hy, hne⟩))
          exact .inl (List.forall_mem_cons.mpr ⟨hsame ▸ hx, hdated⟩)
      · exact .inr ⟨x :: before, undated, early, stay, congrArg (x :: ·) heq, hplace⟩

/-- An issuance that is observed from where there was no time of issue to where there is one is
found just if the time did not come up before the certificate was issued. In particular it is found
if no observation in between shows a time unless the certificate is issued. -/
theorem compareAll_firstIssuance (delta : Delta) {first last : Certificate} {t : Instant}
    (between : List Certificate) (hfirst : first.issuedAt? = none)
    (hissued : last.statusKind? = some .issued) (hlast : last.issuedAt? = some t) :
    let seen := first :: (between ++ [last])
    (∃ found, (delta.compareAll seen).differences = delta.differences ++ found ∧
        (found ≠ [] ↔ ¬Premature t seen)) ∧
      ((delta.compareAll seen).differentAt "Spec" = true ↔
        delta.differentAt "Spec" = true ∨ ¬Premature t seen) ∧
      ((∀ c ∈ between, c.issuedAt? ≠ none → c.statusKind? = some .issued) →
        (delta.compareAll seen).differentAt "Spec" = true) := by
  intro seen
  have hend : ∀ c ∈ seen.getLast?, c.issuedAt? = some t := by
    rw [show seen = (first :: between) ++ [last] from rfl, List.getLast?_concat]
    rintro _ ⟨rfl⟩
    exact hlast
  have hsilent : Silent seen ↔ Premature t seen := by
    refine ⟨fun h => (h.dated_or_premature hend).resolve_left fun hdated => ?_, Premature.silent⟩
    exact absurd (hfirst.symm.trans (hdated first List.mem_cons_self)) (by simp)
  obtain ⟨found, hfound, hpath, hnone⟩ := delta.compareAll_found seen
  have hsome : found ≠ [] ↔ ¬Premature t seen := not_congr (hnone.trans hsilent)
  have hspec := differentAt_found hfound hpath
  rw [hsome] at hspec
  refine ⟨⟨found, hfound, hsome⟩, hspec, fun hbetween => hspec.mpr (.inr fun hpremature => ?_)⟩
  obtain ⟨early, hmem, htime, hpending⟩ := hpremature.exists_early
  rcases List.mem_cons.mp hmem with rfl | hmem
  · exact absurd (hfirst.symm.trans htime) (by simp)
  rcases List.mem_append.mp hmem with hmem | hmem
  · exact hpending (hbetween early hmem (by simp [htime]))
  · exact hpending (List.mem_singleton.mp hmem ▸ hissued)

/-- An issuance is found where the time comes with it, and not where the time was there before. -/
theorem issuance_found :
    let pending := observed .pendingValidation none
    let early := observed .pendingValidation newYear
    let issued := observed .issued newYear
    (∀ delta : Delta, (delta.compareAll [pending, pending, issued]).differentAt "Spec" = true) ∧
      (({} : Delta).compareAll [pending, early, issued]).differences = [] := by
  intro pending early issued
  constructor
  · intro delta
    have hfound := (compareAll_firstIssuance (t := newYear) delta [pending]
      (show pending.issuedAt? = none from rfl) (show issued.statusKind? = some .issued from rfl)
      rfl).2.2
    refine hfound fun c hc htime => absurd ?_ htime
    obtain rfl := List.mem_singleton.mp hc
    rfl
  · obtain ⟨found, hfound, hsome⟩ := (compareAll_firstIssuance (t := newYear) {} [early]
      (show pending.issuedAt? = none from rfl) (show issued.statusKind? = some .issued from rfl)
      rfl).1
    have hpremature : Premature newYear [pending, early, issued] :=
      @Premature.split newYear [] [issued] pending early (List.isChain_singleton pending) rfl
        (by decide) (by decide)
    have hnone : found = [] := not_not.mp fun hne => hsome.mp hne hpremature
    exact hfound.trans (congrArg _ hnone)

/-- A time of issue that comes up too early hides the issuance. -/
theorem earlyTime_hides_issuance :
    ¬∀ (first : Certificate) (between : List Certificate) (last : Certificate),
      first.issuedAt? = none → last.statusKind? = some .issued → last.issuedAt? ≠ none →
        (({} : Delta).compareAll (first :: (between ++ [last]))).differentAt "Spec" = true := by
  intro hall
  have hfound := hall (observed .pendingValidation none) [observed .pendingValidation newYear]
    (observed .issued newYear) rfl rfl (by decide)
  exact absurd hfound (by decide)

end Delta

end CertSync
