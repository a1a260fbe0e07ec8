import CertSync.Drift.Delta
import Mathlib.Data.List.Basic

/-!
# Paths by their segments

Whether there is a difference at a root is decided on the text of the paths: a path starts with the
root, and what is left of it is empty or starts with a point. That is to say that the segments of the
root are the first ones of the path, wherever points stand in either of them.
-/

namespace CertSync.Delta

/-- What stands between the points of a path. Two points in a row have an empty segment between them,
and one at either end has an empty segment there. -/
def segments (path : String) : List (List Char) := path.toList.splitOn '.'

/-- The differences, added one after the other. -/
def addAll (delta : Delta) (found : List Difference) : Delta :=
  found.foldl (fun delta d => delta.add d.path d.a d.b) delta

theorem differences_addAll (delta : Delta) (found : List Difference) :
    (delta.addAll found).differences = delta.differences ++ found := by
  induction found generalizing delta with
  | nil => exact (List.append_nil _).symm
  | cons d rest ih =>
    have hrest := ih (delta.add d.path d.a d.b)
    rw [addAll, List.foldl_cons, ← addAll, hrest, add, List.append_assoc]
    rfl

/-! ## Texts and segments -/

theorem isBelow_iff {root path : String} :
    isBelow root path = true ↔
      path.toList = root.toList ∨ ∃ rest, path.toList = root.toList ++ '.' :: rest := by
  unfold isBelow
  constructor
  · intro h
    split at h
    · next hwhole =>
      rw [List.isPrefixOf?_eq_some_iff_append_eq, List.append_nil] at hwhole
      exact .inl hwhole.symm
    · next rest hrest =>
      rw [List.isPrefixOf?_eq_some_iff_append_eq] at hrest
      exact .inr ⟨rest, hrest.symm⟩
    · cases h
  · rintro (hwhole | ⟨rest, hrest⟩)
    · have hempty : root.toList.isPrefixOf? path.toList = some [] := by
        rw [List.isPrefixOf?_eq_some_iff_append_eq, List.append_nil, hwhole]
      rw [hempty]
    · have hpoint : root.toList.isPrefixOf? path.toList = some ('.' :: rest) := by
        rw [List.isPrefixOf?_eq_some_iff_append_eq, hrest]
      simp only [hpoint]

theorem intercalate_append {before after : List (List Char)} (hbefore : before ≠ [])
    (hafter : after ≠ []) :
    ['.'].intercalate (before ++ after) =
      ['.'].intercalate before ++ '.' :: ['.'].intercalate after := by
  induction before with
  | nil => exact absurd rfl hbefore
  | cons segment rest ih =>
    cases rest with
    | nil =>
      rw [List.singleton_append, List.intercalate_cons_of_ne_nil hafter, List.intercalate_singleton]
      simp
    | cons next rest =>
      have hrest := ih (List.cons_ne_nil next rest)
      rw [List.cons_append, List.cons_append, List.intercalate_cons_cons, ← List.cons_append, hrest,
        List.intercalate_cons_cons]
      simp only [List.append_assoc]

theorem isBelow_iff_segments {root path : String} :
    isBelow root path = true ↔ segments root <+: segments path := by
  rw [isBelow_iff]
  unfold segments
  constructor
  · rintro (hwhole | ⟨rest, hrest⟩)
    · exact hwhole ▸ List.prefix_refl _
    · rw [hrest, List.splitOn_append_cons_self]
      exact List.prefix_append _ _
  · rintro ⟨more, hmore⟩
    have hpath : ['.'].intercalate (root.toList.splitOn '.' ++ more) = path.toList := by
      rw [hmore, List.intercalate_splitOn]
    by_cases hnil : more = []
    · rw [hnil, List.append_nil, List.intercalate_splitOn] at hpath
      exact .inl hpath.symm
    · rw [intercalate_append (List.splitOn_ne_nil _ _) hnil, List.intercalate_splitOn] at hpath
      exact .inr ⟨_, hpath.symm⟩

/-! ## Roots of differences -/

theorem differentAt_addAll {found : List Difference} {root : String} :
    (({} : Delta).addAll found).differentAt root = true ↔
      ∃ d ∈ found, segments root <+: segments d.path := by
  rw [differentAt, differences_addAll]
  simp only [List.nil_append, List.any_eq_true, isBelow_iff_segments]

/-- After any run of additions there is a difference at a root just if the segments of the root are
the first ones of a recorded path. So no further addition takes one away; there is one at each
recorded path, and at whatever has the first segments of a place where there is one; and part of a
segment does not count for the segment. -/
theorem differentAt_iff_segments (found : List Difference) (root : String) :
    ((({} : Delta).addAll found).differentAt root = true ↔
        ∃ d ∈ found, segments root <+: segments d.path) ∧
      (∀ more, (({} : Delta).addAll found).differentAt root = true →
        (({} : Delta).addAll (found ++ more)).differentAt root = true) ∧
      (∀ d ∈ found, (({} : Delta).addAll found).differentAt d.path = true) ∧
      (∀ upper, segments upper <+: segments root →
        (({} : Delta).addAll found).differentAt root = true →
          (({} : Delta).addAll found).differentAt upper = true) ∧
      ((∀ d ∈ found, ∃ i, ∃ h : i < (segments root).length,
          (segments d.path)[i]? ≠ some (segments root)[i]) →
        (({} : Delta).addAll found).differentAt root = false) := by
  refine ⟨differentAt_addAll, ?_, ?_, ?_, ?_⟩
  · intro more h
    obtain ⟨d, hd, hroot⟩ := differentAt_addAll.mp h
    exact differentAt_addAll.mpr ⟨d, List.mem_append_left more hd, hroot⟩
  · intro d hd
    exact differentAt_addAll.mpr ⟨d, hd, List.prefix_refl _⟩
  · intro upper hupper h
    obtain ⟨d, hd, hroot⟩ := differentAt_addAll.mp h
    exact differentAt_addAll.mpr ⟨d, hd, hupper.trans hroot⟩
  · intro hpart
    rw [Bool.eq_false_iff]
    intro h
    obtain ⟨d, hd, hroot⟩ := differentAt_addAll.mp h
    obtain ⟨i, hi, hother⟩ := hpart d hd
    exact hother (List.prefix_iff_getElem?.mp hroot i hi)

/-- A path with an empty segment in it. -/
def doubledPoint : Difference := ⟨"Spec..Tags", none, some (.text "team")⟩

/-- The empty segment is one like any other: there is a difference at its end too, but none at the
first letters of the segment after it. -/
theorem doubledPoint_differentAt :
    (({} : Delta).addAll [doubledPoint]).differentAt "Spec..Tags" = true ∧
      (({} : Delta).addAll [doubledPoint]).differentAt "Spec." = true ∧
      (({} : Delta).addAll [doubledPoint]).differentAt "" = false ∧
      (({} : Delta).addAll [doubledPoint]).differentAt "Spec..Ta" = false ∧
      (({} : Delta).addAll ([doubledPoint] ++ [doubledPoint])).differentAt "Spec." = true := by
  obtain ⟨-, -, hpath, hupper, -⟩ := differentAt_iff_segments [doubledPoint] "Spec..Tags"
  obtain ⟨-, hmore, -, -, -⟩ := differentAt_iff_segments [doubledPoint] "Spec."
  obtain ⟨-, -, -, -, hempty⟩ := differentAt_iff_segments [doubledPoint] ""
  obtain ⟨-, -, -, -, hpart⟩ := differentAt_iff_segments [doubledPoint] "Spec..Ta"
  have hwhole := hpath doubledPoint (by simp)
  have hroot := hupper "Spec." (by decide) hwhole
  refine ⟨hwhole, hroot, hempty ?_, hpart ?_, hmore [doubledPoint] hroot⟩
  · simp only [List.forall_mem_singleton]
    exact ⟨0, by decide, by decide⟩
  · simp only [List.forall_mem_singleton]
    exact ⟨2, by decide, by decide⟩

end CertSync.Delta
