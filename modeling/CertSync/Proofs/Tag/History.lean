import CertSync.Acm.Request
import CertSync.Acm.Response
import CertSync.Proofs.Tag.Lookup
import CertSync.Proofs.Traversal
import Mathlib.Data.Finset.Card

/-!
# Tag sets by their history

A tag set is the finite map that its history makes it: a key has the value that the last change of it
left there. That settles everything that can be asked of the set, so two sets with the same lookups
are the same, and it does not matter what a set was built from.
-/

namespace CertSync

/-! ## Histories -/

namespace TagChange

def key : TagChange → String
  | insert key _ => key
  | erase key => key

/-- What the key has after the change. -/
def value? : TagChange → Option String
  | insert _ value => some value
  | erase _ => none

/-- A declared tag without a value has the empty one. -/
def ofTag (tag : Tag) : TagChange := insert tag.key (tag.value.getD "")

/-- The last change of a key decides what it has. -/
def binding? (history : List TagChange) (key : String) : Option String :=
  (history.filter fun c => c.key = key).getLast? >>= value?

def boundKeys (history : List TagChange) : Finset String :=
  (history.map TagChange.key).toFinset.filter fun key => (binding? history key).isSome

theorem binding?_snoc (history : List TagChange) (c : TagChange) (key : String) :
    binding? (history ++ [c]) key = if c.key = key then c.value? else binding? history key := by
  unfold binding?
  rw [List.filter_append]
  by_cases h : c.key = key
  · simp [h]
  · simp [h]

theorem mem_boundKeys {history : List TagChange} {key : String} :
    key ∈ boundKeys history ↔ (binding? history key).isSome = true := by
  unfold boundKeys
  simp only [Finset.mem_filter, List.mem_toFinset, and_iff_right_iff_imp]
  intro hbound
  obtain ⟨value, hvalue⟩ := Option.isSome_iff_exists.mp hbound
  obtain ⟨c, hc, -⟩ := Option.bind_eq_some_iff.mp hvalue
  obtain ⟨hmem, hkey⟩ := List.mem_filter.mp (List.mem_of_getLast? hc)
  exact List.mem_map.mpr ⟨c, hmem, of_decide_eq_true hkey⟩

end TagChange

open TagChange (binding? boundKeys binding?_snoc mem_boundKeys)

/-- The numbers of the characters, which texts are ordered by. -/
def codePoints (s : String) : List Nat := s.toList.map Char.toNat

theorem codePoints_lt_of_compare {a b : String} (h : compare a b = .lt) :
    codePoints a < codePoints b := by
  have hlt : a < b := compareOfLessAndEq_eq_lt.mp h
  exact List.map_lt (fun _ _ hchar => hchar) (String.lt_iff.mp hlt)

namespace TagSet

/-! ## Asking a tag set -/

/-- All that can be asked of the tag set is answered from its history. -/
structure Shows (tags : TagSet) (history : List TagChange) : Prop where
  get? : ∀ key, tags.get? key = binding? history key
  contains : ∀ key, tags.contains key = true ↔ key ∈ boundKeys history
  size : tags.size = (boundKeys history).card
  isEmpty : tags.isEmpty = true ↔ boundKeys history = ∅
  keys : tags.keys.toFinset = boundKeys history
  increasing : tags.keys.Pairwise fun a b => codePoints a < codePoints b
  toTags : tags.toTags = tags.keys.map fun key => ⟨key, binding? history key⟩

theorem eq_iff_get? {a b : TagSet} : a = b ↔ ∀ key, a.get? key = b.get? key :=
  ⟨fun h _ => h ▸ rfl, ext⟩

theorem keys_increasing (tags : TagSet) :
    tags.keys.Pairwise fun a b => codePoints a < codePoints b :=
  Std.ExtTreeMap.ordered_keys.imp codePoints_lt_of_compare

theorem keys_nodup (tags : TagSet) : tags.keys.Nodup := by
  refine (keys_increasing tags).imp ?_
  rintro a _ hlt rfl
  exact List.lt_irrefl _ hlt

theorem toTags_eq_map_keys (tags : TagSet) :
    tags.toTags = tags.keys.map fun key => ⟨key, tags.get? key⟩ := by
  have hkeys : tags.keys = tags.toList.map Prod.fst := Std.ExtTreeMap.map_fst_toList_eq_keys.symm
  rw [hkeys, List.map_map, toTags]
  refine List.map_congr_left fun pair hpair => ?_
  rw [Function.comp_apply, (mem_toList tags pair.1 pair.2).mp hpair]

theorem shows_of_get? {tags : TagSet} {history : List TagChange}
    (h : ∀ key, tags.get? key = binding? history key) : tags.Shows history := by
  have hkeys : tags.keys.toFinset = boundKeys history := by
    ext key
    rw [List.mem_toFinset, mem_keys, h, mem_boundKeys]
  have hsize : tags.size = (boundKeys history).card := by
    rw [← hkeys, List.toFinset_card_of_nodup tags.keys_nodup]
    exact Std.ExtTreeMap.length_keys.symm
  exact {
    get? := h
    contains _ := by rw [contains_eq, h, mem_boundKeys]
    size := hsize
    isEmpty := by
      rw [← Finset.card_eq_zero, ← hsize, isEmpty, Std.ExtTreeMap.isEmpty_eq_size_beq_zero,
        beq_iff_eq, size]
    keys := hkeys
    increasing := tags.keys_increasing
    toTags := by simp only [toTags_eq_map_keys, h] }

/-! ## Changing a tag set -/

/-- The changes one after the other, with the value that each key had before its change. -/
def changeAll (tags : TagSet) : List TagChange → List (Option String) × TagSet
  | [] => ([], tags)
  | c :: rest =>
    let after := (tags.change c).2.changeAll rest
    ((tags.change c).1 :: after.1, after.2)

theorem change_fst (tags : TagSet) (c : TagChange) : (tags.change c).1 = tags.get? c.key := by
  cases c <;> rfl

theorem get?_change (tags : TagSet) (c : TagChange) (key : String) :
    (tags.change c).2.get? key = if c.key = key then c.value? else tags.get? key := by
  cases c with
  | insert k v => exact get?_insert tags k v key
  | erase k => exact get?_erase tags k key

theorem Shows.change {tags : TagSet} {history : List TagChange} (h : tags.Shows history)
    (c : TagChange) : (tags.change c).2.Shows (history ++ [c]) :=
  shows_of_get? fun key => by rw [get?_change, binding?_snoc, h.get?]

theorem Shows.changeAll {tags : TagSet} {history : List TagChange} (h : tags.Shows history)
    (changes : List TagChange) : (tags.changeAll changes).2.Shows (history ++ changes) := by
  induction changes generalizing tags history with
  | nil => rwa [List.append_nil]
  | cons c rest ih =>
    have hrest := ih (h.change c)
    rwa [List.append_assoc] at hrest

theorem Shows.replaced {tags : TagSet} {history : List TagChange} (h : tags.Shows history)
    (before : List TagChange) (c : TagChange) (after : List TagChange) :
    (tags.changeAll (before ++ c :: after)).1[before.length]? =
      some (binding? (history ++ before) c.key) := by
  induction before generalizing tags history with
  | nil =>
    change some (tags.change c).1 = _
    rw [change_fst, h.get?, List.append_nil]
  | cons b rest ih =>
    have hrest := ih (h.change b)
    rw [List.append_assoc] at hrest
    exact hrest

theorem length_changeAll (tags : TagSet) (changes : List TagChange) :
    (tags.changeAll changes).1.length = changes.length := by
  induction changes generalizing tags with
  | nil => rfl
  | cons c rest ih => exact congrArg (· + 1) (ih (tags.change c).2)

theorem shows_ofTags (tags : List Tag) : (ofTags tags).Shows (tags.map TagChange.ofTag) := by
  refine shows_of_get? fun key => ?_
  rw [get?_ofTags, binding?, List.filter_map, List.getLast?_map]
  have hsame : (fun c : TagChange => decide (c.key = key)) ∘ TagChange.ofTag =
      fun tag : Tag => decide (tag.key = key) := rfl
  rw [hsame]
  cases (tags.filter fun tag => tag.key = key).getLast? <;> rfl

end TagSet

/-! ## Tags of the certificate service -/

/-- How the certificate service writes a tag: one without a value lacks the field, or has null
there. -/
inductive Tag.IsWritten (tag : Tag) : Json → Prop
  | bare (h : tag.value = none) : IsWritten tag (.object [("Key", .text tag.key)])
  | null (h : tag.value = none) :
    IsWritten tag (.object [("Key", .text tag.key), ("Value", .null)])
  | valued {value : String} (h : tag.value = some value) :
    IsWritten tag (.object [("Key", .text tag.key), ("Value", .text value)])

theorem Tag.IsWritten.read {tag : Tag} {j : Json} (h : tag.IsWritten j) :
    Json.optional Tag.ofAcm? (some j) = some (some tag) := by
  obtain ⟨key, value⟩ := tag
  cases h with
  | bare h => cases h; rfl
  | null h => cases h; rfl
  | valued h => cases h; rfl

namespace TagSet

theorem ofAcm?_of_isWritten {tags : List Tag} {items : List Json}
    (h : List.Forall₂ Tag.IsWritten tags items) :
    ofAcm? (.list items) = some (ofTags tags) := by
  have hread : items.mapM (Json.optional Tag.ofAcm? ∘ some) = some (tags.map some) := by
    rw [mapM_eq_some_iff, List.forall₂_map_right_iff]
    exact (h.imp fun _ _ hitem => hitem.read).flip
  have hkept : (tags.map some).filterMap id = tags := by
    rw [List.filterMap_map]
    exact List.filterMap_some
  unfold ofAcm?
  rw [Json.list?, Option.bind_eq_bind, Option.bind_some, hread, Option.bind_eq_bind,
    Option.bind_some, hkept]
  rfl

theorem toAcm_isWritten (tags : TagSet) :
    ∃ items, tags.toAcm = .list items ∧ List.Forall₂ Tag.IsWritten tags.toTags items := by
  refine ⟨_, rfl, ?_⟩
  rw [toTags, List.forall₂_map_left_iff, List.forall₂_map_right_iff]
  exact List.forall₂_same.mpr fun _ _ => .valued rfl

theorem ofAcm?_toAcm (tags : TagSet) : ofAcm? tags.toAcm = some tags := by
  obtain ⟨items, hitems, hwritten⟩ := tags.toAcm_isWritten
  rw [hitems, ofAcm?_of_isWritten hwritten, ofTags_toTags]

/-! ## Finite maps -/

/-- Whatever tags a set was made from, and however it was changed since, it answers as the finite map
that its history makes it, and each change tells what the key had. Two sets are the same just if their
lookups are, a set is made again from its tags and from what the certificate service is sent, and the
service's tags make the set that the same tags make when they are declared. -/
theorem changeAll_shows (declared : List Tag) (changes : List TagChange) :
    ((ofTags declared).changeAll changes).2.Shows
        (declared.map TagChange.ofTag ++ changes) ∧
      ((ofTags declared).changeAll changes).1.length = changes.length ∧
      (∀ before c after, changes = before ++ c :: after →
        ((ofTags declared).changeAll changes).1[before.length]? =
          some (binding? (declared.map TagChange.ofTag ++ before) c.key)) ∧
      (∀ a b : TagSet, a = b ↔ ∀ key, a.get? key = b.get? key) ∧
      (∀ tags : TagSet, ofTags tags.toTags = tags) ∧
      (∀ items, List.Forall₂ Tag.IsWritten declared items →
        ofAcm? (.list items) = some (ofTags declared)) ∧
      ∀ tags : TagSet, ofAcm? tags.toAcm = some tags := by
  have hdeclared := shows_ofTags declared
  refine ⟨hdeclared.changeAll changes, length_changeAll _ changes, ?_, fun _ _ => eq_iff_get?,
    ofTags_toTags, fun _ => ofAcm?_of_isWritten, ofAcm?_toAcm⟩
  rintro before c after rfl
  exact hdeclared.replaced before c after

/-- A tag that was declared twice, the second time without a value, is replaced and removed. -/
theorem redeclared_shows :
    ((ofTags [⟨"team", some "a"⟩, ⟨"team", none⟩]).changeAll
        [.insert "team" "b", .erase "team"]).1[1]? = some (some "b") ∧
      ofAcm? (.list [.object [("Key", .text "team"), ("Value", .text "a")],
        .object [("Key", .text "team")]]) = some (ofTags [⟨"team", some "a"⟩, ⟨"team", none⟩]) := by
  obtain ⟨-, -, hreplaced, -, -, hacm, -⟩ :=
    changeAll_shows [⟨"team", some "a"⟩, ⟨"team", none⟩] [.insert "team" "b", .erase "team"]
  exact ⟨hreplaced [.insert "team" "b"] (.erase "team") [] rfl,
    hacm _ (.cons (.valued rfl) (.cons (.bare rfl) .nil))⟩

end TagSet

end CertSync
