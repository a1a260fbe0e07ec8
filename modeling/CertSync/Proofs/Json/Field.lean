import CertSync.Json.Record
import Mathlib.Data.List.Nodup

/-!
# The fields of a record

What a record gives for a name, whatever order its fields stand in and whatever other fields there
are, and how that changes when one field is put in or given another value.
-/

namespace CertSync.Json

/-! ## Looking a field up -/

section Lookup

variable {l l' : List (String × Json)} {name : String} {v : Json}

theorem lookup_of_notMem (h : name ∉ l.map Prod.fst) : l.lookup name = none := by
  rw [List.lookup_eq_none_iff]
  exact fun p hp => bne_iff_ne.mpr fun heq => h (heq ▸ List.mem_map_of_mem hp)

theorem lookup_append_cons (h : name ∉ l.map Prod.fst) (n : String) :
    (l ++ (name, v) :: l').lookup n = if n = name then some v else (l ++ l').lookup n := by
  rw [List.lookup_append, List.lookup_append, List.lookup_cons]
  split_ifs with hn
  · subst hn
    rw [lookup_of_notMem h, beq_self_eq_true]
    rfl
  · rw [beq_false_of_ne hn]

/-- Of fields with different names, each is found under its own. -/
theorem lookup_of_mem (hnodup : (l.map Prod.fst).Nodup) (h : (name, v) ∈ l) :
    l.lookup name = some v := by
  obtain ⟨before, after, rfl⟩ := List.append_of_mem h
  have hfirst : name ∉ before.map Prod.fst := by
    rw [List.map_append, List.nodup_append'] at hnodup
    exact fun hmem => hnodup.2.2 hmem List.mem_cons_self
  rw [lookup_append_cons hfirst, if_pos rfl]

theorem lookup_perm (hnodup : (l.map Prod.fst).Nodup) (h : l.Perm l') (n : String) :
    l'.lookup n = l.lookup n := by
  have hnodup' : (l'.map Prod.fst).Nodup := (h.map _).nodup_iff.mp hnodup
  cases hn : l.lookup n with
  | some v =>
    obtain ⟨before, after, rfl, -⟩ := List.lookup_eq_some_iff.mp hn
    exact lookup_of_mem hnodup' (h.subset (by simp))
  | none =>
    rw [List.lookup_eq_none_iff] at hn ⊢
    exact fun p hp => hn p (h.symm.subset hp)

end Lookup

/-! ## Records as they are written -/

section Record

variable {names : List String} {l l' : List (String × Json)} {name : String} {v v' : Json}

/-- The fields that the record has. -/
def known (names : List String) (l : List (String × Json)) : List (String × Json) :=
  l.filter fun f => names.contains f.1

theorem objectRecord?_eq (names : List String) (l : List (String × Json)) :
    objectRecord? names l =
      if ((known names l).map Prod.fst).Nodup then some fun name => (known names l).lookup name
      else none := rfl

theorem known_append (l l' : List (String × Json)) :
    known names (l ++ l') = known names l ++ known names l' := List.filter_append ..

theorem known_cons_of_mem (h : name ∈ names) :
    known names ((name, v) :: l) = (name, v) :: known names l :=
  List.filter_cons_of_pos (List.contains_iff_mem.mpr h)

theorem known_cons_of_notMem (h : name ∉ names) :
    known names ((name, v) :: l) = known names l :=
  List.filter_cons_of_neg (mt List.contains_iff_mem.mp h)

theorem notMem_known (h : name ∉ l.map Prod.fst) : name ∉ (known names l).map Prod.fst :=
  fun hmem => h (List.map_subset Prod.fst (List.filter_subset_self l) hmem)

theorem objectRecord?_perm (h : l.Perm l') : objectRecord? names l' = objectRecord? names l := by
  have hknown : (known names l).Perm (known names l') := h.filter _
  have hnodup := (hknown.map Prod.fst).nodup_iff
  rw [objectRecord?_eq, objectRecord?_eq]
  by_cases hl : ((known names l).map Prod.fst).Nodup
  · rw [if_pos hl, if_pos (hnodup.mp hl)]
    exact congrArg some (funext fun n => lookup_perm hl hknown n)
  · rw [if_neg hl, if_neg (mt hnodup.mpr hl)]

theorem objectRecord?_cons (h : name ∈ names) (habsent : name ∉ l.map Prod.fst) :
    objectRecord? names ((name, v) :: l) =
      (objectRecord? names l).map fun r n => if n = name then some v else r n := by
  have hnodup : (((name, v) :: known names l).map Prod.fst).Nodup ↔
      ((known names l).map Prod.fst).Nodup := by
    rw [List.map_cons, List.nodup_cons, and_iff_right (notMem_known habsent)]
  rw [objectRecord?_eq, objectRecord?_eq, known_cons_of_mem h]
  split_ifs with hl hr hr
  · exact congrArg some (funext fun n => lookup_append_cons (l := []) List.not_mem_nil n)
  · exact absurd (hnodup.mp hl) hr
  · exact absurd (hnodup.mpr hr) hl
  · rfl

/-- Whatever value the field is given, the other fields are read as before. -/
def Varies (read : Json → Option Record) (name : String) : Prop :=
  (∀ v, read v = none) ∨ ∃ r : Record, ∀ v, read v = some fun n => if n = name then some v else r n

theorem objectRecord?_varies (h : name ∈ names) (l l' : List (String × Json)) :
    Varies (fun v => objectRecord? names (l ++ (name, v) :: l')) name := by
  have hknown (v : Json) : known names (l ++ (name, v) :: l') =
      known names l ++ (name, v) :: known names l' := by
    rw [known_append, known_cons_of_mem h]
  simp only [Varies, objectRecord?_eq, hknown, List.map_append, List.map_cons]
  by_cases hnodup : ((known names l).map Prod.fst ++ name :: (known names l').map Prod.fst).Nodup
  · refine .inr ⟨fun n => (known names l ++ known names l').lookup n, fun v => ?_⟩
    have hfirst : name ∉ (known names l).map Prod.fst :=
      fun hmem => (List.nodup_append'.mp hnodup).2.2 hmem List.mem_cons_self
    rw [if_pos hnodup]
    exact congrArg some (funext fun n => lookup_append_cons hfirst n)
  · exact .inl fun _ => if_neg hnodup

theorem listRecord?_varies {items : List Json} (hnodup : names.Nodup)
    (h : names[items.length]? = some name) (items' : List Json) :
    Varies (fun v => listRecord? names (items ++ v :: items')) name := by
  obtain ⟨hlt, hname⟩ := List.getElem?_eq_some_iff.mp h
  have hsplit : names = names.take items.length ++ name :: names.drop (items.length + 1) := by
    rw [← hname, ← List.drop_eq_getElem_cons hlt, List.take_append_drop]
  have htake : (names.take items.length).length = items.length :=
    List.length_take_of_le (Nat.le_of_lt hlt)
  have hzip (v : Json) : names.zip (items ++ v :: items') =
      (names.take items.length).zip items ++
        (name, v) :: (names.drop (items.length + 1)).zip items' := by
    conv_lhs => rw [hsplit]
    rw [List.zip_append htake, List.zip_cons_cons]
  have hfirst : name ∉ ((names.take items.length).zip items).map Prod.fst := by
    rw [List.map_fst_zip (Nat.le_of_eq htake)]
    rw [hsplit] at hnodup
    exact fun hmem => (List.nodup_append'.mp hnodup).2.2 hmem List.mem_cons_self
  have hlength (v : Json) : (items ++ v :: items').length = items.length + (items'.length + 1) :=
    List.length_append
  simp only [Varies, listRecord?, hlength, hzip]
  by_cases hle : items.length + (items'.length + 1) ≤ names.length
  · refine .inr ⟨fun n => ((names.take items.length).zip items ++
      (names.drop (items.length + 1)).zip items').lookup n, fun v => ?_⟩
    rw [if_pos hle]
    exact congrArg some (funext fun n => lookup_append_cons hfirst n)
  · exact .inl fun _ => if_neg hle

end Record

end CertSync.Json
