import Mathlib.Data.List.Forall2

/-!
# Going through a list

What readers and records have to do with lists: items and results that belong together one by one.
-/

namespace CertSync

variable {α β : Type}

theorem exists_of_mem_right {R : α → β → Prop} {items : List α} {results : List β}
    (h : List.Forall₂ R items results) {b : β} (hb : b ∈ results) : ∃ a ∈ items, R a b := by
  induction h with
  | nil => cases hb
  | @cons a _ _ _ hab _ ih =>
    rcases List.mem_cons.mp hb with rfl | hb
    · exact ⟨a, List.mem_cons_self, hab⟩
    · obtain ⟨a', ha', hab'⟩ := ih hb
      exact ⟨a', List.mem_cons_of_mem _ ha', hab'⟩

theorem mapM_eq_some_iff {f : α → Option β} {items : List α} {results : List β} :
    items.mapM f = some results ↔ List.Forall₂ (fun a b => f a = some b) items results := by
  induction items generalizing results with
  | nil => rw [List.forall₂_nil_left_iff, List.mapM_nil, Option.pure_def, Option.some_inj, eq_comm]
  | cons a items ih =>
    simp only [List.mapM_cons, Option.bind_eq_bind, Option.bind_eq_some_iff, Option.pure_def,
      Option.some_inj, ih, List.forall₂_cons_left_iff]
    constructor
    · rintro ⟨b, hb, rest, hrest, rfl⟩
      exact ⟨b, rest, hb, hrest, rfl⟩
    · rintro ⟨b, rest, hb, hrest, rfl⟩
      exact ⟨b, hb, rest, hrest, rfl⟩

theorem mapM_eq_some {f : α → Option β} {g : α → β} {items : List α}
    (h : ∀ a ∈ items, f a = some (g a)) : items.mapM f = some (items.map g) := by
  rw [mapM_eq_some_iff, List.forall₂_map_right_iff, List.forall₂_same]
  exact h

theorem mapM_map {f : α → β} {g : β → Option α} (h : ∀ a, g (f a) = some a) (items : List α) :
    (items.map f).mapM g = some items := by
  rw [mapM_eq_some_iff, List.forall₂_map_left_iff, List.forall₂_same]
  exact fun a _ => h a

theorem mapM_eq_none {f : α → Option β} {items : List α} {a : α} (ha : a ∈ items)
    (h : f a = none) : items.mapM f = none := by
  rw [Option.eq_none_iff_forall_ne_some]
  intro results hresults
  obtain ⟨b, -, hb⟩ := exists_of_mem_right (mapM_eq_some_iff.mp hresults).flip ha
  cases h.symm.trans hb

end CertSync
