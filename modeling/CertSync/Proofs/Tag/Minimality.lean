import CertSync.Proofs.Tag.Diff

/-!
# The least changes

Many changes lead from the observed tags to the desired ones. The difference between the two is what
all of them have in common: it leads there by itself, and touches no key on which the two agree.
-/

namespace CertSync.TagDiff

/-- The key is added or removed. -/
def Touches (diff : TagDiff) (key : String) : Prop :=
  diff.toAdd.contains key = true ∨ diff.toRemove.contains key = true

/-- The first changes include the second: they add the same values, and remove the same keys. -/
structure Covers (other diff : TagDiff) : Prop where
  adds {key value : String} (h : diff.toAdd.get? key = some value) :
    other.toAdd.get? key = some value
  removes {key : String} (h : diff.toRemove.contains key = true) :
    other.toRemove.contains key = true

theorem Covers.touches {other diff : TagDiff} (h : other.Covers diff) {key : String}
    (hkey : diff.Touches key) : other.Touches key := by
  rcases hkey with hadd | hremove
  · rw [TagSet.contains_eq] at hadd
    obtain ⟨value, hvalue⟩ := Option.isSome_iff_exists.mp hadd
    left
    rw [TagSet.contains_eq, h.adds hvalue]
    rfl
  · exact .inr (h.removes hremove)

variable {desired observed : TagSet} {removal : Removal} {key value : String}

/-! ## The keys of the difference -/

theorem get?_toAdd_eq_some_iff :
    (between desired observed).toAdd.get? key = some value ↔
      desired.get? key = some value ∧ observed.get? key ≠ some value := by
  rw [get?_toAdd]
  by_cases hsame : desired.get? key = observed.get? key
  · rw [if_pos hsame, hsame]
    simp
  · rw [if_neg hsame]
    constructor
    · intro hvalue
      exact ⟨hvalue, fun hobserved => hsame (hvalue.trans hobserved.symm)⟩
    · exact And.left

theorem get?_toRemove_eq_some_iff :
    (between desired observed).toRemove.get? key = some value ↔
      observed.get? key = some value ∧ desired.get? key = none := by
  rw [get?_toRemove]
  cases desired.get? key <;> simp

theorem toRemove_contains_iff :
    (between desired observed).toRemove.contains key = true ↔
      (∃ value, observed.get? key = some value) ∧ desired.get? key = none := by
  rw [TagSet.contains_eq, Option.isSome_iff_exists]
  simp only [get?_toRemove_eq_some_iff, exists_and_right]

theorem toAdd_contains_iff :
    (between desired observed).toAdd.contains key = true ↔
      ∃ value, desired.get? key = some value ∧ observed.get? key ≠ some value := by
  rw [TagSet.contains_eq, Option.isSome_iff_exists]
  simp only [get?_toAdd_eq_some_iff]

theorem between_disjoint :
    ¬((between desired observed).toAdd.contains key = true ∧
      (between desired observed).toRemove.contains key = true) := by
  rw [toAdd_contains_iff, toRemove_contains_iff]
  rintro ⟨⟨value, hdesired, -⟩, -, hnone⟩
  rw [hnone] at hdesired
  cases hdesired

theorem not_touches_iff :
    ¬(between desired observed).Touches key ↔ desired.get? key = observed.get? key := by
  rw [Touches, toAdd_contains_iff, toRemove_contains_iff]
  cases desired.get? key <;> cases observed.get? key <;> simp [eq_comm]

/-! ## What leads to the desired tags -/

theorem applyTo_observed : (between desired observed).applyTo removal observed = desired :=
  TagSet.ext fun _ => (get?_applyTo removal).trans (Removal.outcome_of_or (.inl rfl))

theorem covers_of_applyTo {other : TagDiff} (h : other.applyTo removal observed = desired) :
    other.Covers (between desired observed) := by
  have hkey (key : String) : (other.toAdd.get? key).or
      ((observed.without removal other.toRemove).get? key) = desired.get? key := by
    rw [← TagSet.get?_overlay, ← h, applyTo]
  constructor
  · intro key value hadd
    obtain ⟨hdesired, hobserved⟩ := get?_toAdd_eq_some_iff.mp hadd
    have hend := (hkey key).trans hdesired
    cases hother : other.toAdd.get? key with
    | some added =>
      rw [hother, Option.some_or] at hend
      exact hend
    | none =>
      rw [hother, Option.none_or] at hend
      rcases TagSet.get?_without_or removal observed other.toRemove key with hkept | hgone
      · exact absurd (hkept.symm.trans hend) hobserved
      · rw [hgone] at hend
        cases hend
  · intro key hremove
    obtain ⟨⟨value, hobserved⟩, hdesired⟩ := toRemove_contains_iff.mp hremove
    have hend := (Option.or_eq_none_iff.mp ((hkey key).trans hdesired)).2
    cases hother : other.toRemove.get? key with
    | some removed => rw [TagSet.contains_eq, hother]; rfl
    | none =>
      rw [TagSet.get?_without_of_none hother, hobserved] at hend
      cases hend

theorem isEmpty_iff_untouched (diff : TagDiff) :
    diff.isEmpty = true ↔ ∀ key, ¬diff.Touches key := by
  have hempty (tags : TagSet) : tags.isEmpty = true ↔ ∀ key, tags.contains key = false := by
    rw [TagSet.isEmpty_iff]
    constructor
    · rintro rfl key
      rw [TagSet.contains_eq, TagSet.get?_empty]
      rfl
    · intro hnone
      refine TagSet.ext fun key => ?_
      have hkey := hnone key
      rw [TagSet.contains_eq, Option.isSome_eq_false_iff, Option.isNone_iff_eq_none] at hkey
      rw [hkey, TagSet.get?_empty]
  rw [isEmpty, Bool.and_eq_true, hempty, hempty, ← forall_and]
  simp only [Touches, not_or, Bool.not_eq_true]

theorem isEmpty_between_iff : (between desired observed).isEmpty = true ↔ desired = observed := by
  rw [isEmpty_iff_untouched]
  simp only [not_touches_iff]
  exact ⟨TagSet.ext, fun h key => by rw [h]⟩

/-- The difference leads from the observed to the desired tags, by either way of removing tags, and
whatever else leads there includes it. It is empty just if there is no way to go, as there is none
any more once it was made. -/
theorem between_least (removal : Removal) (desired observed : TagSet) :
    let diff := between desired observed
    (∀ key, ¬(diff.toAdd.contains key = true ∧ diff.toRemove.contains key = true)) ∧
    diff.applyTo removal observed = desired ∧
    (∀ key value, diff.toAdd.get? key = some value ↔
      desired.get? key = some value ∧ observed.get? key ≠ some value) ∧
    (∀ key value, diff.toRemove.get? key = some value ↔
      observed.get? key = some value ∧ desired.get? key = none) ∧
    (∀ key, ¬diff.Touches key ↔ desired.get? key = observed.get? key) ∧
    (∀ other : TagDiff, other.applyTo removal observed = desired →
      other.Covers diff ∧ ∀ key, diff.Touches key → other.Touches key) ∧
    (diff.isEmpty = true ↔ desired = observed) ∧
    (between desired (diff.applyTo removal observed)).isEmpty = true := by
  intro diff
  refine ⟨fun _ => between_disjoint, applyTo_observed, fun _ _ => get?_toAdd_eq_some_iff,
    fun _ _ => get?_toRemove_eq_some_iff, fun _ => not_touches_iff, ?_, isEmpty_between_iff, ?_⟩
  · intro other h
    have hcovers : other.Covers diff := covers_of_applyTo h
    exact ⟨hcovers, fun _ => hcovers.touches⟩
  · rw [applyTo_observed]
    exact isEmpty_between_iff.mpr rfl

end CertSync.TagDiff
