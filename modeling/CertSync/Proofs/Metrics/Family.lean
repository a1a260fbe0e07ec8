import CertSync.Metrics
import Mathlib.Data.List.Induction
import Mathlib.Data.List.Nodup
import Mathlib.Tactic.SplitIfs

/-!
# What a family counts

A family has one count for each hash that its labels have had: it goes by the first of the labels
with this hash, and counts all of them. It tells its labels apart just if no two of them share a
hash, and then their order makes no difference to it.
-/

namespace CertSync.MetricFamily

variable {l l' : List MetricLabels} {labels : MetricLabels} {slot : UInt64} {count : MetricCount}

/-- A family that was incremented for these labels. -/
def ofLabels (l : List MetricLabels) : MetricFamily := l.foldl increment ∅

/-- Those labels that have the hash. -/
def sharing (slot : UInt64) (l : List MetricLabels) : List MetricLabels :=
  l.filter fun labels => labels.slot = slot

/-- No two different labels share a hash. -/
def Apart (l : List MetricLabels) : Prop := ∀ a ∈ l, ∀ b ∈ l, a.slot = b.slot → a = b

theorem ofLabels_snoc (l : List MetricLabels) (labels : MetricLabels) :
    ofLabels (l ++ [labels]) = (ofLabels l).increment labels :=
  List.foldl_append

instance : Decidable (Apart l) :=
  inferInstanceAs (Decidable (∀ a ∈ l, ∀ b ∈ l, a.slot = b.slot → a = b))

theorem Apart.subset (h : Apart l) (hsub : l' ⊆ l) : Apart l' :=
  fun a ha b hb => h a (hsub ha) b (hsub hb)

theorem mem_sharing : labels ∈ sharing slot l ↔ labels ∈ l ∧ labels.slot = slot := by
  simp [sharing]

theorem Apart.sharing_eq (h : Apart l) (hmem : labels ∈ l) :
    sharing labels.slot l = List.replicate (l.count labels) labels := by
  rw [← List.filter_eq, sharing]
  refine List.filter_congr fun a ha => ?_
  simp only [decide_eq_decide]
  exact ⟨h a ha labels hmem, fun heq => heq ▸ rfl⟩

/-! ## Single counts -/

theorem getElem?_increment (family : MetricFamily) (labels : MetricLabels) (slot : UInt64) :
    (family.increment labels)[slot]? =
      if labels.slot = slot then
        let count := family[slot]?.getD ⟨labels, 0⟩
        some { count with value := count.value + 1 }
      else family[slot]? := by
  simp only [increment, Std.ExtTreeMap.getElem?_insert, Std.LawfulEqCmp.compare_eq_iff_eq]
  split_ifs with h
  · subst h
    rw [Std.ExtTreeMap.getD_eq_getD_getElem?]
  · rfl

theorem getElem?_ofLabels (l : List MetricLabels) (slot : UInt64) :
    (ofLabels l)[slot]? =
      (sharing slot l).head?.map fun first => ⟨first, (sharing slot l).length⟩ := by
  induction l using List.reverseRecOn with
  | nil => exact Std.ExtTreeMap.getElem?_empty
  | append_singleton l labels ih =>
    have hsharing : sharing slot (l ++ [labels]) =
        sharing slot l ++ if labels.slot = slot then [labels] else [] := by
      simp only [sharing, List.filter_append, List.filter_cons, List.filter_nil, decide_eq_true_eq]
    rw [ofLabels_snoc, getElem?_increment, ih, hsharing]
    by_cases h : labels.slot = slot
    · rw [if_pos h, if_pos h]
      cases sharing slot l <;> simp
    · rw [if_neg h, if_neg h, List.append_nil]

/-! ## All counts -/

theorem mem_counts {family : MetricFamily} :
    count ∈ family.counts ↔ ∃ slot : UInt64, family[slot]? = some count := by
  simp [counts, Std.ExtTreeMap.mem_toList_iff_getElem?_eq_some]

theorem mem_counts_ofLabels :
    count ∈ (ofLabels l).counts ↔
      (sharing count.labels.slot l).head? = some count.labels ∧
        (sharing count.labels.slot l).length = count.value := by
  simp only [mem_counts, getElem?_ofLabels, Option.map_eq_some_iff]
  constructor
  · rintro ⟨slot, first, hfirst, rfl⟩
    obtain ⟨-, rfl⟩ := mem_sharing.mp (List.mem_of_mem_head? hfirst)
    exact ⟨hfirst, rfl⟩
  · rintro ⟨hfirst, hvalue⟩
    exact ⟨_, _, hfirst, by rw [hvalue]⟩

theorem counts_nodup : (ofLabels l).counts.Nodup := by
  have hslot : ∀ entry ∈ (ofLabels l).toList, entry.1 = entry.2.labels.slot := by
    intro entry hentry
    have hsome := Std.ExtTreeMap.mem_toList_iff_getElem?_eq_some.mp hentry
    rw [getElem?_ofLabels, Option.map_eq_some_iff] at hsome
    obtain ⟨first, hfirst, hcount⟩ := hsome
    obtain ⟨-, hslot⟩ := mem_sharing.mp (List.mem_of_mem_head? hfirst)
    rw [← hcount, hslot]
  refine (List.mergeSort_perm ..).nodup_iff.mpr (List.pairwise_map.mpr ?_)
  refine Std.ExtTreeMap.distinct_keys_toList.imp_of_mem fun ha hb hkeys hcounts => hkeys ?_
  rw [hslot _ ha, hslot _ hb, hcounts]
  exact Std.ReflCmp.compare_self

/-! ## Labels that are told apart -/

theorem Apart.mem_counts (h : Apart l) :
    count ∈ (ofLabels l).counts ↔ count.labels ∈ l ∧ count.value = l.count count.labels := by
  rw [mem_counts_ofLabels]
  constructor
  · rintro ⟨hfirst, hvalue⟩
    have hmem := (mem_sharing.mp (List.mem_of_mem_head? hfirst)).1
    rw [h.sharing_eq hmem, List.length_replicate] at hvalue
    exact ⟨hmem, hvalue.symm⟩
  · rintro ⟨hmem, hvalue⟩
    rw [h.sharing_eq hmem, List.length_replicate, List.head?_replicate,
      if_neg (Nat.pos_iff_ne_zero.mp (List.count_pos_iff.mpr hmem))]
    exact ⟨rfl, hvalue.symm⟩

/-- A family has each of its labels with its own number just if it tells them apart. -/
theorem apart_iff : Apart l ↔ ∀ labels ∈ l, ⟨labels, l.count labels⟩ ∈ (ofLabels l).counts := by
  constructor
  · exact fun h labels hmem => h.mem_counts.mpr ⟨hmem, rfl⟩
  · intro h a ha b hb hslot
    have hfirst := (mem_counts_ofLabels.mp (h a ha)).1
    rw [hslot, (mem_counts_ofLabels.mp (h b hb)).1] at hfirst
    exact (Option.some.inj hfirst).symm

theorem Apart.ofLabels_perm (h : Apart l) (hperm : l.Perm l') : ofLabels l = ofLabels l' := by
  refine Std.ExtTreeMap.ext_getElem? fun slot => ?_
  have hsharing : sharing slot l = sharing slot l' := by
    have hfilter : (sharing slot l).Perm (sharing slot l') := hperm.filter _
    cases hall : sharing slot l with
    | nil => rw [hall] at hfilter; exact hfilter.nil_eq
    | cons labels rest =>
      obtain ⟨hmem, rfl⟩ := mem_sharing.mp (hall ▸ List.mem_cons_self : labels ∈ sharing slot l)
      rw [h.sharing_eq hmem] at hfilter
      rw [← hall, h.sharing_eq hmem]
      exact (List.perm_replicate.mp hfilter.symm).symm
  rw [getElem?_ofLabels, getElem?_ofLabels, hsharing]

end CertSync.MetricFamily
