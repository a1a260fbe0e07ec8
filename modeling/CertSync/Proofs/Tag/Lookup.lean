import CertSync.Resource.Tag

/-!
# Tag sets by their lookups

A tag set is what it answers for each key. Here is what every operation on tag sets answers.
-/

namespace CertSync.TagSet

theorem ext {a b : TagSet} (h : ∀ key, a.get? key = b.get? key) : a = b := by
  cases a
  cases b
  exact congrArg TagSet.mk (Std.ExtTreeMap.ext_getElem? fun key => h key)

@[simp] theorem get?_empty (key : String) : (∅ : TagSet).get? key = none :=
  Std.ExtTreeMap.getElem?_empty

theorem get?_insert (tags : TagSet) (k v key : String) :
    (tags.insert k v).get? key = if k = key then some v else tags.get? key := by
  simp [get?, insert, Std.ExtTreeMap.getElem?_insert]

theorem get?_erase (tags : TagSet) (k key : String) :
    (tags.erase k).get? key = if k = key then none else tags.get? key := by
  simp [get?, erase, Std.ExtTreeMap.getElem?_erase]

theorem get?_filter (keep : String → String → Bool) (tags : TagSet) (key : String) :
    (tags.filter keep).get? key = (tags.get? key).filter (keep key) := by
  simp [get?, filter]

theorem contains_eq (tags : TagSet) (key : String) :
    tags.contains key = (tags.get? key).isSome :=
  Std.ExtTreeMap.contains_eq_isSome_getElem?

theorem isEmpty_iff (tags : TagSet) : tags.isEmpty = true ↔ tags = ∅ := by
  cases tags with
  | mk m =>
    rw [show (∅ : TagSet) = ⟨∅⟩ from rfl, TagSet.mk.injEq]
    exact Std.ExtTreeMap.isEmpty_iff

theorem mem_toList (tags : TagSet) (key value : String) :
    (key, value) ∈ tags.toList ↔ tags.get? key = some value :=
  Std.ExtTreeMap.mem_toList_iff_getElem?_eq_some

theorem mem_keys (tags : TagSet) (key : String) :
    key ∈ tags.keys ↔ (tags.get? key).isSome = true := by
  rw [keys, Std.ExtTreeMap.mem_keys, Std.ExtTreeMap.mem_iff_isSome_getElem?]
  rfl

theorem get?_eraseList (keys : List String) (tags : TagSet) (key : String) :
    (keys.foldl erase tags).get? key = if key ∈ keys then none else tags.get? key := by
  induction keys generalizing tags with
  | nil => simp
  | cons k rest ih =>
    rw [List.foldl_cons, ih, get?_erase]
    by_cases h : k = key
    · simp [h]
    · simp [h, Ne.symm h]

/-! ## Lists of pairs -/

theorem get?_insertList (pairs : List (String × String)) (tags : TagSet) (key : String) :
    (pairs.foldl (fun tags pair => tags.insert pair.1 pair.2) tags).get? key =
      (pairs.reverse.lookup key).or (tags.get? key) := by
  induction pairs generalizing tags with
  | nil => simp
  | cons pair rest ih =>
    rw [List.foldl_cons, ih, get?_insert, List.reverse_cons, List.lookup_append,
      List.lookup_singleton, Option.or_assoc]
    by_cases h : pair.1 = key
    · simp [h]
    · simp [h, Ne.symm h]

theorem lookup_reverse_toList (tags : TagSet) (key : String) :
    tags.toList.reverse.lookup key = tags.get? key := by
  have hmem : ∀ value, tags.toList.reverse.lookup key = some value →
      tags.get? key = some value := by
    intro value h
    obtain ⟨before, after, hsplit, _⟩ := List.lookup_eq_some_iff.mp h
    rw [← mem_toList, ← List.mem_reverse, hsplit]
    simp
  cases hv : tags.get? key with
  | none =>
    cases hl : tags.toList.reverse.lookup key with
    | none => rfl
    | some value => rw [hmem value hl] at hv; cases hv
  | some value =>
    have hin : (key, value) ∈ tags.toList.reverse := by simp [mem_toList, hv]
    have hsome : (tags.toList.reverse.lookup key).isSome :=
      List.lookup_isSome_iff.mpr ⟨_, hin, by simp⟩
    obtain ⟨other, ho⟩ := Option.isSome_iff_exists.mp hsome
    rw [ho, ← hv, hmem other ho]

def overlay (tags upper : TagSet) : TagSet :=
  upper.toList.foldl (fun all tag => all.insert tag.1 tag.2) tags

theorem get?_overlay (tags upper : TagSet) (key : String) :
    (tags.overlay upper).get? key = (upper.get? key).or (tags.get? key) := by
  rw [overlay, get?_insertList, lookup_reverse_toList]

theorem overlay_empty (tags : TagSet) : tags.overlay ∅ = tags :=
  ext fun key => by rw [get?_overlay, get?_empty, Option.none_or]

theorem ofList_toList (tags : TagSet) : ofList tags.toList = tags :=
  ext fun key => by
    rw [ofList, get?_insertList, lookup_reverse_toList]
    exact (congrArg _ (get?_empty key)).trans Option.or_none

theorem ofTags_toTags (tags : TagSet) : ofTags tags.toTags = tags := by
  have hpairs : tags.toTags.map (fun tag => (tag.key, tag.value.getD "")) = tags.toList := by
    simp [toTags, Function.comp_def]
  rw [ofTags, hpairs, ofList_toList]

theorem get?_ofTags (tags : List Tag) (key : String) :
    (ofTags tags).get? key =
      (tags.filter fun tag => tag.key = key).getLast?.map fun tag => tag.value.getD "" := by
  have hlookup (rest : List Tag) :
      (rest.map fun tag => (tag.key, tag.value.getD "")).lookup key =
        (rest.find? fun tag => tag.key = key).map fun tag => tag.value.getD "" := by
    induction rest with
    | nil => rfl
    | cons tag rest ih =>
      by_cases h : tag.key = key
      · simp [h]
      · have hne : (key == tag.key) = false := beq_false_of_ne (Ne.symm h)
        simp [List.lookup_cons, h, hne, ih]
  have hnone : (empty : TagSet).get? key = none := get?_empty key
  rw [ofTags, ofList, get?_insertList, ← List.map_reverse, hlookup, hnone, Option.or_none,
    List.getLast?_eq_head?_reverse, ← List.filter_reverse, List.head?_filter]

end CertSync.TagSet
