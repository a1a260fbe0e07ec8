import CertSync.Metrics
import CertSync.Proofs.Text.Decimal
import Mathlib.Data.List.Nodup

/-!
# The lines of a family

An escaped label is read back up to the quote that ends it, whatever its characters are. So a sample
tells its labels and its value, and lines of different counts are different.
-/

namespace CertSync.Metrics

variable {name help line : String} {family : MetricFamily} {count count' : MetricCount}

/-! ## Escaping -/

/-- Reads an escaped label up to its closing quote, and what follows. -/
def readLabel : List Char → Option (List Char × List Char)
  | [] => none
  | '"' :: rest => some ([], rest)
  | ['\\'] => none
  | '\\' :: c :: rest =>
    (readLabel rest).map (Prod.map (List.cons (if c = 'n' then '\n' else c)) id)
  | c :: rest => (readLabel rest).map (Prod.map (List.cons c) id)

theorem readLabel_escapeChar (c : Char) (cs : List Char) :
    readLabel (escapeChar c ++ cs) = (readLabel cs).map (Prod.map (List.cons c) id) := by
  unfold escapeChar
  split_ifs with hslash hquote hnewline
  · subst hslash; rfl
  · subst hquote; rfl
  · subst hnewline; rfl
  · simp [readLabel, hslash]

theorem readLabel_escape (s : String) (rest : List Char) :
    readLabel ((escape s).toList ++ '"' :: rest) = some (s.toList, rest) := by
  rw [escape, String.toList_ofList]
  induction s.toList with
  | nil => rfl
  | cons c cs ih => rw [List.flatMap_cons, List.append_assoc, readLabel_escapeChar, ih]; rfl

theorem escape_append_inj {s t : String} {rest rest' : List Char}
    (h : (escape s).toList ++ '"' :: rest = (escape t).toList ++ '"' :: rest') :
    s = t ∧ rest = rest' := by
  have hread := congrArg readLabel h
  rw [readLabel_escape, readLabel_escape, Option.some.injEq, Prod.mk.injEq] at hread
  exact ⟨String.toList_injective hread.1, hread.2⟩

theorem newline_not_mem_escape (s : String) : '\n' ∉ (escape s).toList := by
  rw [escape, String.toList_ofList, List.mem_flatMap]
  rintro ⟨c, -, hc⟩
  unfold escapeChar at hc
  split_ifs at hc with hslash hquote hnewline
  · simp at hc
  · simp at hc
  · simp at hc
  · exact hnewline (List.mem_singleton.mp hc).symm

/-! ## Samples -/

theorem toList_sample (name : String) (count : MetricCount) :
    (sample name count).toList =
      name.toList ++ ("\x7bop_name=\"".toList ++ ((escape count.labels.name).toList ++
        '"' :: (",op_type=\"".toList ++ ((escape count.labels.type).toList ++
          '"' :: ("\x7d ".toList ++ Nat.toDigits 10 count.value))))) := by
  simp [sample, toString, Nat.repr]

theorem sample_inj : sample name count = sample name count' ↔ count = count' := by
  refine ⟨fun h => ?_, fun h => h ▸ rfl⟩
  have hlist := congrArg String.toList h
  rw [toList_sample, toList_sample, List.append_cancel_left_eq, List.append_cancel_left_eq] at hlist
  obtain ⟨hname, hrest⟩ := escape_append_inj hlist
  rw [List.append_cancel_left_eq] at hrest
  obtain ⟨htype, hrest⟩ := escape_append_inj hrest
  rw [List.append_cancel_left_eq] at hrest
  have hvalue := congrArg Text.digitsValue hrest
  rw [Text.digitsValue_toDigits, Text.digitsValue_toDigits] at hvalue
  obtain ⟨⟨type, label⟩, value⟩ := count
  obtain ⟨⟨type', label'⟩, value'⟩ := count'
  simp_all

theorem names_apart (rest rest' : List Char) :
    callsName.toList ++ rest ≠ errorsName.toList ++ rest' := by
  simp [callsName, errorsName]

theorem sample_calls_ne_errors : sample callsName count ≠ sample errorsName count' := by
  intro h
  have hlist := congrArg String.toList h
  rw [toList_sample, toList_sample] at hlist
  exact names_apart _ _ hlist

theorem newline_not_mem_sample (h : '\n' ∉ name.toList) : '\n' ∉ (sample name count).toList := by
  have hdigits : '\n' ∉ Nat.toDigits 10 count.value :=
    fun hmem => absurd (Text.isDigit_toDigits _ _ hmem) (by decide)
  rw [toList_sample]
  simp [h, hdigits, newline_not_mem_escape]

/-! ## Families -/

/-- What stands before the samples of a family. -/
def headings (name help : String) (family : MetricFamily) : List String :=
  if family.isEmpty then [] else [s!"# HELP {name} {help}", s!"# TYPE {name} counter"]

theorem familyLines_eq (name help : String) (family : MetricFamily) :
    familyLines name help family =
      headings name help family ++ family.counts.map (sample name) := by
  unfold familyLines headings
  split_ifs with hempty
  · have hnil := Std.ExtTreeMap.toList_eq_nil_iff.mpr (Std.ExtTreeMap.isEmpty_iff.mp hempty)
    simp [MetricFamily.counts, hnil]
  · rfl

theorem headings_nodup : (headings name help family).Nodup := by
  unfold headings
  split_ifs
  · exact List.nodup_nil
  · simp [← String.toList_inj, toString]

theorem headings_disjoint {errors calls : MetricFamily}
    (h : line ∈ headings errorsName errorsHelp errors) :
    line ∉ headings callsName callsHelp calls := by
  intro h'
  unfold headings at h h'
  split_ifs at h h'
  · exact List.not_mem_nil h
  · exact List.not_mem_nil h
  · exact List.not_mem_nil h'
  · rcases List.mem_pair.mp h with rfl | rfl <;>
      simp [← String.toList_inj, toString, (names_apart _ _).symm] at h'

theorem head?_heading (h : line ∈ headings name help family) : line.toList.head? = some '#' := by
  unfold headings at h
  split_ifs at h
  · cases h
  · rcases List.mem_pair.mp h with rfl | rfl <;> simp [toString]

theorem newline_not_mem_heading (hname : '\n' ∉ name.toList) (hhelp : '\n' ∉ help.toList)
    (h : line ∈ headings name help family) : '\n' ∉ line.toList := by
  unfold headings at h
  split_ifs at h
  · cases h
  · rcases List.mem_pair.mp h with rfl | rfl <;> simp [toString, hname, hhelp]

theorem head?_sample (h : name.toList.head? ≠ some '#') :
    (sample name count).toList.head? ≠ some '#' := by
  rw [toList_sample, List.head?_append]
  cases hfirst : name.toList.head? with
  | none => simp
  | some c => simpa [hfirst] using h

theorem sample_mem_familyLines {name' : String} (h : name'.toList.head? ≠ some '#') :
    sample name' count ∈ familyLines name help family ↔
      ∃ other ∈ family.counts, sample name other = sample name' count := by
  rw [familyLines_eq, List.mem_append, List.mem_map]
  exact or_iff_right fun hmem => head?_sample h (head?_heading hmem)

theorem familyLines_nodup (h : name.toList.head? ≠ some '#') (hcounts : family.counts.Nodup) :
    (familyLines name help family).Nodup := by
  rw [familyLines_eq]
  have hinjective : Function.Injective (sample name) := fun _ _ => sample_inj.mp
  refine headings_nodup.append (hcounts.map hinjective) fun line hheading hsample => ?_
  obtain ⟨count, -, rfl⟩ := List.mem_map.mp hsample
  exact head?_sample h (head?_heading hheading)

theorem newline_not_mem_familyLines (hname : '\n' ∉ name.toList) (hhelp : '\n' ∉ help.toList)
    (h : line ∈ familyLines name help family) : '\n' ∉ line.toList := by
  rw [familyLines_eq, List.mem_append, List.mem_map] at h
  obtain hheading | ⟨count, -, rfl⟩ := h
  · exact newline_not_mem_heading hname hhelp hheading
  · exact newline_not_mem_sample hname

/-! ## The whole text -/

variable {m : Metrics}

theorem callsName_head : callsName.toList.head? ≠ some '#' := by decide

theorem errorsName_head : errorsName.toList.head? ≠ some '#' := by decide

theorem calls_sample_mem_lines :
    sample callsName count ∈ m.lines ↔ m.registered ∧ count ∈ m.calls.counts := by
  unfold lines
  split_ifs with hregistered
  · rw [List.mem_append, sample_mem_familyLines callsName_head,
      sample_mem_familyLines callsName_head]
    simp [hregistered, sample_inj, sample_calls_ne_errors.symm]
  · simp [hregistered]

theorem errors_sample_mem_lines :
    sample errorsName count ∈ m.lines ↔ m.registered ∧ count ∈ m.errors.counts := by
  unfold lines
  split_ifs with hregistered
  · rw [List.mem_append, sample_mem_familyLines errorsName_head,
      sample_mem_familyLines errorsName_head]
    simp [hregistered, sample_inj, sample_calls_ne_errors]
  · simp [hregistered]

theorem newline_not_mem_line (h : line ∈ m.lines) : '\n' ∉ line.toList := by
  unfold lines at h
  split_ifs at h
  · rcases List.mem_append.mp h with herrors | hcalls
    · exact newline_not_mem_familyLines (by decide) (by decide) herrors
    · exact newline_not_mem_familyLines (by decide) (by decide) hcalls
  · cases h

theorem heading_or_sample (h : line ∈ m.lines) : line.toList.head? = some '#' ∨
    ∃ count, line = sample callsName count ∨ line = sample errorsName count := by
  unfold lines at h
  split_ifs at h
  · simp only [List.mem_append, familyLines_eq, List.mem_map] at h
    obtain (hheading | ⟨count, -, rfl⟩) | (hheading | ⟨count, -, rfl⟩) := h
    · exact .inl (head?_heading hheading)
    · exact .inr ⟨count, .inr rfl⟩
    · exact .inl (head?_heading hheading)
    · exact .inr ⟨count, .inl rfl⟩
  · cases h

theorem lines_nodup (hcalls : m.calls.counts.Nodup) (herrors : m.errors.counts.Nodup) :
    m.lines.Nodup := by
  unfold lines
  split_ifs
  · refine (familyLines_nodup errorsName_head herrors).append
      (familyLines_nodup callsName_head hcalls) fun line hline hline' => ?_
    rw [familyLines_eq, List.mem_append, List.mem_map] at hline hline'
    obtain hheading | ⟨count, -, rfl⟩ := hline
    · obtain hheading' | ⟨count, -, rfl⟩ := hline'
      · exact headings_disjoint hheading hheading'
      · exact head?_sample callsName_head (head?_heading hheading)
    · obtain hheading | ⟨count', -, hsame⟩ := hline'
      · exact head?_sample errorsName_head (head?_heading hheading)
      · exact sample_calls_ne_errors hsame
  · exact List.nodup_nil

end CertSync.Metrics
