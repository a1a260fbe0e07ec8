import CertSync.Bytes.Basic

/-!
# Bytes of texts, and runs of bytes

Below 128 a character is one byte with its own number. Runs of one size put together again give
what was cut.
-/

namespace CertSync

theorem chunks_nil {α : Type} (size : Nat) : chunks size ([] : List α) = [] := by
  rw [chunks]
  simp

theorem chunks_of_ne_nil {α : Type} {size : Nat} {xs : List α} (hsize : 0 < size) (hxs : xs ≠ []) :
    chunks size xs = xs.take size :: chunks size (xs.drop size) := by
  rw [chunks, dif_pos ⟨hsize, hxs⟩]

theorem flatten_chunks {α : Type} {size : Nat} (hsize : 0 < size) (xs : List α) :
    (chunks size xs).flatten = xs := by
  by_cases hxs : xs = []
  · subst hxs
    rw [chunks_nil, List.flatten_nil]
  · rw [chunks_of_ne_nil hsize hxs, List.flatten_cons, flatten_chunks hsize, List.take_append_drop]
termination_by xs.length
decreasing_by
  have := List.length_pos_iff.mpr hxs
  simp only [List.length_drop]
  omega

theorem chunks_ne_nil {α : Type} {size : Nat} {xs : List α} :
    ∀ run ∈ chunks size xs, run ≠ [] := by
  by_cases h : 0 < size ∧ xs ≠ []
  · rw [chunks_of_ne_nil h.1 h.2]
    intro run hrun
    rcases List.mem_cons.mp hrun with rfl | hrun
    · simp [h.2, Nat.ne_of_gt h.1]
    · exact chunks_ne_nil run hrun
  · rw [chunks, dif_neg h]
    simp
termination_by xs.length
decreasing_by
  have := List.length_pos_iff.mpr h.2
  simp only [List.length_drop]
  omega

theorem chunks_flatten {α : Type} {size : Nat} (hsize : 0 < size) {runs : List (List α)}
    (h : ∀ run ∈ runs, run.length = size) : chunks size runs.flatten = runs := by
  induction runs with
  | nil => exact chunks_nil size
  | cons run rest ih =>
    have hrun : run.length = size := h run (by simp)
    have hne : run ++ rest.flatten ≠ [] := by
      intro hnil
      rw [(List.append_eq_nil_iff.mp hnil).1] at hrun
      simp only [List.length_nil] at hrun
      omega
    rw [List.flatten_cons, chunks_of_ne_nil hsize hne, ← hrun, List.take_left, List.drop_left, hrun,
      ih fun other hother => h other (List.mem_cons_of_mem _ hother)]

theorem length_flatten_of_runs {α : Type} {size : Nat} {runs : List (List α)}
    (h : ∀ run ∈ runs, run.length = size) : runs.flatten.length = size * runs.length := by
  induction runs with
  | nil => rfl
  | cons run rest ih =>
    rw [List.flatten_cons, List.length_append, h run (by simp), List.length_cons,
      ih fun other hother => h other (List.mem_cons_of_mem _ hother), Nat.mul_succ, Nat.add_comm]

theorem length_of_mem_chunks {α : Type} {size : Nat} (hsize : 0 < size) {xs : List α}
    (h : size ∣ xs.length) : ∀ run ∈ chunks size xs, run.length = size := by
  by_cases hxs : xs = []
  · subst hxs
    simp [chunks_nil]
  rw [chunks_of_ne_nil hsize hxs]
  have hpos := List.length_pos_iff.mpr hxs
  have hle : size ≤ xs.length := Nat.le_of_dvd hpos h
  intro run hrun
  rcases List.mem_cons.mp hrun with rfl | hrun
  · simp [hle]
  · refine length_of_mem_chunks hsize ?_ run hrun
    rw [List.length_drop]
    exact Nat.dvd_sub h (Nat.dvd_refl size)
termination_by xs.length
decreasing_by
  simp only [List.length_drop]
  omega

theorem length_le_of_mem_chunks {α : Type} {size : Nat} {xs : List α} :
    ∀ run ∈ chunks size xs, run.length ≤ size := by
  by_cases h : 0 < size ∧ xs ≠ []
  · rw [chunks_of_ne_nil h.1 h.2]
    intro run hrun
    rcases List.mem_cons.mp hrun with rfl | hrun
    · exact List.length_take_le size xs
    · exact length_le_of_mem_chunks run hrun
  · rw [chunks, dif_neg h]
    simp
termination_by xs.length
decreasing_by
  have := List.length_pos_iff.mpr h.2
  simp only [List.length_drop]
  omega

theorem length_of_mem_dropLast_chunks {α : Type} {size : Nat} (hsize : 0 < size) (xs : List α) :
    ∀ run ∈ (chunks size xs).dropLast, run.length = size := by
  by_cases hxs : xs = []
  · rw [hxs, chunks_nil]
    simp
  rw [chunks_of_ne_nil hsize hxs]
  by_cases hrest : xs.drop size = []
  · rw [hrest, chunks_nil]
    simp
  · have hmore : chunks size (xs.drop size) ≠ [] := by
      rw [chunks_of_ne_nil hsize hrest]
      simp
    rw [List.dropLast_cons_of_ne_nil hmore]
    intro run hrun
    rcases List.mem_cons.mp hrun with rfl | hrun
    · rw [List.drop_eq_nil_iff, Nat.not_le] at hrest
      rw [List.length_take, Nat.min_eq_left (Nat.le_of_lt hrest)]
    · exact length_of_mem_dropLast_chunks hsize _ run hrun
termination_by xs.length
decreasing_by
  have := List.length_pos_iff.mpr hxs
  simp only [List.length_drop]
  omega

namespace Bytes

theorem ofText_eq (s : String) : ofText s = s.toList.flatMap String.utf8EncodeChar := by
  have h : s.toByteArray = (s.toList.flatMap String.utf8EncodeChar).toByteArray := by
    have hof := String.toByteArray_ofList (l := s.toList)
    rwa [String.ofList_toList] at hof
  rw [ofText, String.toUTF8, h]
  simp

theorem toText?_eq_some_iff {bytes : Bytes} {s : String} :
    bytes.toText? = some s ↔ bytes = ofText s := by
  constructor
  · intro h
    unfold toText? String.fromUTF8? at h
    split at h
    · cases h
      simp [ofText, String.fromUTF8]
    · cases h
  · rintro rfl
    exact toText?_ofText s

theorem ofText_append (s t : String) : ofText (s ++ t) = ofText s ++ ofText t := by
  rw [ofText_eq, ofText_eq, ofText_eq, String.toList_append, List.flatMap_append]

theorem ofText_ofList_append (cs ds : List Char) :
    ofText (String.ofList (cs ++ ds)) = ofText (String.ofList cs) ++ ofText (String.ofList ds) := by
  simp [ofText_eq]

theorem ofText_ascii {cs : List Char} (h : ∀ c ∈ cs, c.val ≤ 127) :
    ofText (String.ofList cs) = cs.map fun c => c.val.toUInt8 := by
  rw [ofText_eq, String.toList_ofList]
  induction cs with
  | nil => rfl
  | cons c cs ih =>
    have hc : String.utf8EncodeChar c = [c.val.toUInt8] :=
      String.utf8EncodeChar_eq_singleton (Char.utf8Size_eq_one_iff.mpr (h c (by simp)))
    rw [List.flatMap_cons, hc, ih fun d hd => h d (List.mem_cons_of_mem _ hd)]
    rfl

end Bytes

end CertSync
