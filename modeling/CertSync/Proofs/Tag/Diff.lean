import CertSync.Proofs.Tag.Lookup
import CertSync.TagDiff

/-!
# What a tag difference does

The changes between the observed and the desired tags, and what is left of any other tags when the
changes are made to them. A service may take a tag away by its key, or only if its value is the one
it was told; the two differ where the tags are not the observed ones.
-/

namespace CertSync

inductive Removal where
  | byKey
  | byPair
deriving DecidableEq

def Removal.drops : Removal → TagSet → String → String → Bool
  | byKey, removed, key, _ => removed.contains key
  | byPair, removed, key, value => removed.get? key = some value

/-- What a key ends up with that is to go from `observed` to `desired` and had `before`. -/
def Removal.outcome (removal : Removal) (desired observed before : Option String) : Option String :=
  if desired = observed then before
  else if desired.isSome ∨ removal = .byKey ∨ before = observed then desired
  else before

namespace Removal

variable {removal : Removal} {desired observed before : Option String}

theorem outcome_of_agree (h : desired = observed) :
    removal.outcome desired observed before = before :=
  if_pos h

theorem outcome_byKey (h : desired ≠ observed) :
    byKey.outcome desired observed before = desired := by
  simp [outcome, h]

theorem outcome_of_or (h : before = observed ∨ before = desired) :
    removal.outcome desired observed before = desired := by
  unfold outcome
  rcases h with rfl | rfl
  · split <;> simp_all
  · simp

theorem outcome_or (removal : Removal) (desired observed before : Option String) :
    removal.outcome desired observed before = desired ∨
      removal.outcome desired observed before = before := by
  unfold outcome
  split
  · exact .inr rfl
  split
  · exact .inl rfl
  · exact .inr rfl

end Removal

namespace TagSet

def without (removal : Removal) (tags removed : TagSet) : TagSet :=
  tags.filter fun key value => !removal.drops removed key value

variable {removal : Removal} {tags removed : TagSet} {key : String}

theorem get?_without_byKey :
    (tags.without .byKey removed).get? key =
      if (removed.get? key).isSome then none else tags.get? key := by
  rw [without, get?_filter]
  cases tags.get? key <;> cases h : (removed.get? key).isSome <;>
    simp [Removal.drops, contains_eq, h]

theorem get?_without_byPair :
    (tags.without .byPair removed).get? key =
      if removed.get? key = tags.get? key then none else tags.get? key := by
  rw [without, get?_filter]
  cases tags.get? key with
  | none => simp
  | some value => by_cases h : removed.get? key = some value <;> simp [Removal.drops, h]

theorem get?_without_of_none (h : removed.get? key = none) :
    (tags.without removal removed).get? key = tags.get? key := by
  cases removal with
  | byKey => simp [get?_without_byKey, h]
  | byPair =>
    rw [get?_without_byPair, h]
    split
    · assumption
    · rfl

theorem get?_without_or (removal : Removal) (tags removed : TagSet) (key : String) :
    (tags.without removal removed).get? key = tags.get? key ∨
      (tags.without removal removed).get? key = none := by
  cases removal with
  | byKey =>
    rw [get?_without_byKey]
    split
    · exact .inr rfl
    · exact .inl rfl
  | byPair =>
    rw [get?_without_byPair]
    split
    · exact .inr rfl
    · exact .inl rfl

end TagSet

namespace TagDiff

variable {desired observed tags : TagSet} {key : String}

theorem get?_toAdd :
    (between desired observed).toAdd.get? key =
      if desired.get? key = observed.get? key then none else desired.get? key := by
  rw [between, TagSet.get?_filter]
  cases desired.get? key with
  | none => simp
  | some value =>
    by_cases h : some value = observed.get? key
    · simp [← h]
    · simp [h, Ne.symm h]

theorem get?_toRemove :
    (between desired observed).toRemove.get? key =
      if (desired.get? key).isSome then none else observed.get? key := by
  rw [between, TagSet.get?_filter, TagSet.contains_eq]
  cases observed.get? key <;> cases desired.get? key <;> simp

def applyTo (removal : Removal) (diff : TagDiff) (tags : TagSet) : TagSet :=
  (tags.without removal diff.toRemove).overlay diff.toAdd

theorem get?_applyTo (removal : Removal) :
    ((between desired observed).applyTo removal tags).get? key =
      removal.outcome (desired.get? key) (observed.get? key) (tags.get? key) := by
  rw [applyTo, TagSet.get?_overlay, get?_toAdd, Removal.outcome]
  by_cases hsame : desired.get? key = observed.get? key
  · have hremove : (between desired observed).toRemove.get? key = none := by
      rw [get?_toRemove, ← hsame]
      cases desired.get? key <;> rfl
    rw [if_pos hsame, if_pos hsame, Option.none_or, TagSet.get?_without_of_none hremove]
  rw [if_neg hsame, if_neg hsame]
  cases hd : desired.get? key with
  | some value => simp
  | none =>
    -- The key goes if it is removed by key, or has the value that it was observed with.
    have hremove : (between desired observed).toRemove.get? key = observed.get? key := by
      simp [get?_toRemove, hd]
    have hobserved : (observed.get? key).isSome = true :=
      Option.isSome_iff_ne_none.mpr fun h => hsame (hd.trans h.symm)
    rw [Option.none_or]
    cases removal with
    | byKey => simp [TagSet.get?_without_byKey, hremove, hobserved]
    | byPair => simp [TagSet.get?_without_byPair, hremove, eq_comm]

theorem applyTo_eq_iff :
    (between desired observed).applyTo .byKey tags = desired ↔
      ∀ key, observed.get? key = desired.get? key → tags.get? key = desired.get? key := by
  constructor
  · intro h key hsame
    have hkey : ((between desired observed).applyTo .byKey tags).get? key = _ := get?_applyTo .byKey
    rw [h, Removal.outcome_of_agree hsame.symm] at hkey
    exact hkey.symm
  · intro h
    apply TagSet.ext
    intro key
    rw [get?_applyTo]
    by_cases hsame : desired.get? key = observed.get? key
    · rw [Removal.outcome_of_agree hsame, h key hsame.symm]
    · exact Removal.outcome_byKey hsame

end TagDiff

end CertSync
