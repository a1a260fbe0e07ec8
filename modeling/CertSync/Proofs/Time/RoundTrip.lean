import CertSync.Proofs.Text.Decimal
import CertSync.Time.Printer
import CertSync.Time.Reader
import Mathlib.Data.List.TakeWhile
import Mathlib.Data.Option.Basic

/-!
# A printed instant is read back

Each part of a timestamp is read off the front of what follows it. All of them have a fixed width
but the year and the fraction, which end where something comes that is no digit.
-/

namespace CertSync.Instant

/-! ## Padded numbers -/

theorem length_padded {width n : Nat} (hwidth : 0 < width) (hn : n < 10 ^ width) :
    (padded width n).length = width := by
  have hlength := (Nat.length_toDigits_le_iff (by decide) hwidth).mpr hn
  simp only [padded, List.length_append, List.length_replicate]
  omega

theorem isDigit_padded (width n : Nat) : ∀ c ∈ padded width n, c.isDigit = true := by
  intro c hc
  rcases List.mem_append.mp hc with hzero | hdigit
  · rw [List.eq_of_mem_replicate hzero]
    rfl
  · exact Text.isDigit_toDigits n c hdigit

theorem exists_padded_cons (width n : Nat) :
    ∃ d ds, padded width n = d :: ds ∧ d.isDigit = true := by
  have hdigits := isDigit_padded width n
  cases h : padded width n with
  | nil => exact absurd h (List.append_ne_nil_of_right_ne_nil _ Nat.toDigits_ne_nil)
  | cons d ds => exact ⟨d, ds, rfl, hdigits d (h ▸ List.mem_cons_self)⟩

theorem padded_ne_nil (width n : Nat) : padded width n ≠ [] :=
  List.append_ne_nil_of_right_ne_nil _ Nat.toDigits_ne_nil

theorem digitsValue_padded (width n : Nat) : Text.digitsValue (padded width n) = n := by
  rw [padded, Text.digitsValue_leading_zeros, Text.digitsValue_toDigits]

namespace Scan

/-! ## Blanks and digits -/

/-- The text does not start with one of these characters. -/
def Without (among : Char → Bool) (rest : List Char) : Prop :=
  ∀ c, rest.head? = some c → among c = false

theorem without_cons {among : Char → Bool} {c : Char} (h : among c = false) (rest : List Char) :
    Without among (c :: rest) := by
  intro d hd
  obtain rfl := Option.some.inj hd
  exact h

theorem isBlank_of_isDigit {c : Char} (h : c.isDigit = true) : Text.isBlank c = false := by
  simp only [Char.isDigit, Bool.and_eq_true, decide_eq_true_eq, ge_iff_le,
    UInt32.le_iff_toNat_le] at h
  obtain ⟨hleast, hmost⟩ := h
  change 48 ≤ c.toNat at hleast
  change c.toNat ≤ 57 at hmost
  simp only [Text.isBlank, Text.blankRanges, List.any_cons, List.any_nil, Bool.or_eq_false_iff,
    Bool.and_eq_false_iff, decide_eq_false_iff_not, and_true]
  omega

theorem run_blanks {cs : List Char} (h : Without Text.isBlank cs) :
    blanks.run cs = some ((), cs) := by
  cases cs with
  | nil => rfl
  | cons c rest =>
    have hc := h c rfl
    simp [blanks, Text.trimStart, hc]

theorem run_digits {ds rest : List Char} {most : Nat} (hne : ds ≠ [])
    (hdigits : ∀ c ∈ ds, c.isDigit = true) (hmost : ds.length ≤ most)
    (hrest : ds.length = most ∨ Without Char.isDigit rest) :
    (digits most).run (ds ++ rest) = some (ds, rest) := by
  have htail : (rest.take (most - ds.length)).takeWhile Char.isDigit = [] := by
    rcases hrest with hfull | hrest
    · rw [hfull, Nat.sub_self, List.take_zero]
      rfl
    · cases rest with
      | nil => rw [List.take_nil]; rfl
      | cons c rest =>
        have hc := hrest c rfl
        cases most - ds.length with
        | zero => rfl
        | succ k => rw [List.take_succ_cons, List.takeWhile_cons, if_neg (by simp [hc])]
  have htake : ((ds ++ rest).take most).takeWhile Char.isDigit = ds := by
    rw [List.take_append, List.take_of_length_le hmost, List.takeWhile_append_of_pos hdigits, htail,
      List.append_nil]
  have hnonempty : ds.isEmpty = false := List.isEmpty_eq_false_iff.mpr hne
  have hdrop : (ds ++ rest).drop ds.length = rest := List.drop_left
  simp only [digits, StateT.run_bind, StateT.run_get, Option.pure_def, Option.bind_eq_bind,
    Option.bind_some, htake, hnonempty, hdrop]
  rfl

theorem without_padded (width n : Nat) (rest : List Char) :
    Without Text.isBlank (padded width n ++ rest) := by
  obtain ⟨d, ds, hpadded, hd⟩ := exists_padded_cons width n
  rw [hpadded]
  exact without_cons (isBlank_of_isDigit hd) _

theorem run_blanks_cons {c : Char} (h : Text.isBlank c = false) (rest : List Char) :
    blanks.run (c :: rest) = some ((), c :: rest) := run_blanks (without_cons h rest)

theorem run_digits_padded {most n : Nat} (hmost : 0 < most) (hn : n < 10 ^ most)
    (rest : List Char) : (digits most).run (padded most n ++ rest) = some (padded most n, rest) :=
  have hlength := length_padded hmost hn
  run_digits (padded_ne_nil most n) (isDigit_padded most n) hlength.le (.inl hlength)

theorem run_number {most n : Nat} (hmost : 0 < most) (hn : n < 10 ^ most) (rest : List Char) :
    (number most).run (padded most n ++ rest) = some (n, rest) := by
  simp only [number, StateT.run_bind, run_blanks (without_padded most n rest),
    run_digits_padded hmost hn, Option.bind_eq_bind, Option.bind_some, StateT.run_pure,
    digitsValue_padded]
  rfl

theorem run_oneOf {cs : List Char} {c : Char} (h : cs.contains c = true) (rest : List Char) :
    (oneOf cs).run (c :: rest) = some ((), rest) := by
  simp only [oneOf, StateT.run_bind, StateT.run_get, Option.pure_def, Option.bind_eq_bind,
    Option.bind_some, h, if_true]
  rfl

theorem run_mark {c : Char} (h : Text.isBlank c = false) (rest : List Char) :
    (mark c).run (c :: rest) = some ((), rest) := by
  have hself : [c].contains c = true := by simp
  simp only [mark, StateT.run_bind, run_blanks_cons h, Option.bind_eq_bind, Option.bind_some,
    run_oneOf hself]

theorem run_peek? (cs : List Char) : peek?.run cs = some (cs.head?, cs) := rfl

theorem run_skip (cs : List Char) : skip.run cs = some ((), cs.tail) := rfl

theorem run_get (cs : List Char) : (get : Scan (List Char)).run cs = some (cs, cs) := rfl

/-! ## The year -/

theorem run_signedDigits {c : Char} (hc : c.isDigit = false) (width n : Nat) (rest : List Char) :
    (digits (padded width n ++ c :: rest).length).run (padded width n ++ c :: rest) =
      some (padded width n, c :: rest) :=
  run_digits (padded_ne_nil width n) (isDigit_padded width n) (by simp)
    (.inr (without_cons hc rest))

theorem run_plainYear {n : Nat} (hn : n < 10 ^ 4) (rest : List Char) :
    year.run (padded 4 n ++ rest) = some ((n : Int), rest) := by
  have hblanks := run_blanks (without_padded 4 n rest)
  have hdigits := run_digits_padded (by decide) hn rest
  have hvalue := digitsValue_padded 4 n
  -- What comes first is a digit, so no branch for a sign is taken.
  obtain ⟨d, ds, hpadded, hd⟩ := exists_padded_cons 4 n
  rw [hpadded] at hdigits hblanks hvalue ⊢
  rw [List.cons_append] at hdigits hblanks ⊢
  simp only [year, StateT.run_bind, hblanks, Option.bind_eq_bind, Option.bind_some, run_peek?,
    List.head?_cons]
  split
  · next h =>
    cases h
    exact absurd hd (by decide)
  · next h =>
    cases h
    exact absurd hd (by decide)
  · simp only [StateT.run_bind, hdigits, Option.bind_eq_bind, Option.bind_some, hvalue,
      StateT.run_pure]
    rfl

theorem run_year (y : Int) (rest : List Char) :
    year.run (printYear y ++ '-' :: rest) = some (y, '-' :: rest) := by
  unfold printYear
  split_ifs with hplain hsign
  · rw [run_plainYear (by omega), Int.toNat_of_nonneg hplain.1]
  · have hblanks := @run_blanks_cons '-' rfl (padded 4 y.natAbs ++ '-' :: rest)
    have hdigits := @run_signedDigits '-' rfl 4 y.natAbs rest
    have hvalue : -(y.natAbs : Int) = y := by omega
    rw [List.cons_append]
    simp only [year, StateT.run_bind, hblanks, Option.bind_eq_bind, Option.bind_some, run_peek?,
      List.head?_cons, run_skip, List.tail_cons, run_get, hdigits, digitsValue_padded,
      StateT.run_pure, hvalue]
    rfl
  · have hblanks := @run_blanks_cons '+' rfl (padded 4 y.natAbs ++ '-' :: rest)
    have hdigits := @run_signedDigits '-' rfl 4 y.natAbs rest
    have hvalue : (y.natAbs : Int) = y := by omega
    rw [List.cons_append]
    simp only [year, StateT.run_bind, hblanks, Option.bind_eq_bind, Option.bind_some, run_peek?,
      List.head?_cons, run_skip, List.tail_cons, run_get, hdigits, digitsValue_padded,
      StateT.run_pure, hvalue]
    rfl

/-! ## The fraction -/

theorem dropWhile_without {among : Char → Bool} {rest : List Char} (h : Without among rest) :
    rest.dropWhile among = rest := by
  cases rest with
  | nil => rfl
  | cons c rest => rw [List.dropWhile_cons, if_neg (by simp [h c rfl])]

theorem run_digitsOfFraction {width n : Nat} (hwidth : 0 < width) (hmost : width ≤ 9)
    (hn : n < 10 ^ width) {rest : List Char} (hrest : Without Char.isDigit rest) :
    fraction.run ('.' :: (padded width n ++ rest)) = some (n * 10 ^ (9 - width), rest) := by
  have hlength := length_padded hwidth hn
  have hdigits := run_digits (padded_ne_nil width n) (isDigit_padded width n)
    (hlength.le.trans hmost) (.inr hrest)
  simp only [fraction, StateT.run_bind, run_peek?, List.head?_cons, Option.bind_eq_bind,
    Option.bind_some, if_true, run_skip, List.tail_cons, hdigits, StateT.run_modify,
    Option.pure_def, dropWhile_without hrest, hlength, Text.digitsValue_trailing_zeros,
    digitsValue_padded, StateT.run_pure]

/-- The text ends a fraction, and it ends a whole second too. -/
def EndsSecond (rest : List Char) : Prop := Without (fun c => c.isDigit || c = '.') rest

theorem EndsSecond.without_isDigit {rest : List Char} (h : EndsSecond rest) :
    Without Char.isDigit rest := by
  intro c hc
  exact (Bool.or_eq_false_iff.mp (h c hc)).1

theorem run_noFraction {rest : List Char} (h : EndsSecond rest) :
    fraction.run rest = some (0, rest) := by
  have hpoint : rest.head? ≠ some '.' := fun hc => absurd (h '.' hc) (by decide)
  simp only [fraction, StateT.run_bind, run_peek?, Option.bind_eq_bind, Option.bind_some,
    if_neg hpoint]
  rfl

theorem run_fraction {n : Nat} (hn : n < 1000000000) {rest : List Char} (h : EndsSecond rest) :
    fraction.run (printFraction n ++ rest) = some (n, rest) := by
  have hrest := h.without_isDigit
  unfold printFraction
  split_ifs with hzero hmilli hmicro
  · rw [hzero]
    exact run_noFraction h
  · have hrun := @run_digitsOfFraction 3 (n / 1000000) (by decide) (by decide) (by omega) _ hrest
    have hvalue : n / 1000000 * 10 ^ (9 - 3) = n := by omega
    rwa [hvalue] at hrun
  · have hrun := @run_digitsOfFraction 6 (n / 1000) (by decide) (by decide) (by omega) _ hrest
    have hvalue : n / 1000 * 10 ^ (9 - 6) = n := by omega
    rwa [hvalue] at hrun
  · have hrun := @run_digitsOfFraction 9 n (by decide) (by decide) (by omega) _ hrest
    rwa [Nat.sub_self, Nat.pow_zero, Nat.mul_one] at hrun

/-! ## All of it -/

theorem month_day_lt (d : Date) : d.month < 10 ^ 2 ∧ d.day < 10 ^ 2 := by
  obtain ⟨-, hmonth, -, hlast⟩ := d.valid
  have hmost : Date.daysIn d.year d.month ≤ 31 := by unfold Date.daysIn; split_ifs <;> decide
  omega

theorem run_date (d : Date) (rest : List Char) :
    date.run (printDate d ++ rest) = some (d, rest) := by
  obtain ⟨hmonth, hday⟩ := month_day_lt d
  simp only [printDate, List.append_assoc, List.cons_append]
  simp only [date, StateT.run_bind, run_year, Option.bind_eq_bind, Option.bind_some,
    run_mark (c := '-') rfl, run_number (by decide : 0 < 2) hmonth,
    run_number (by decide : 0 < 2) hday, Date.of?_self]
  rfl

theorem run_below {bound : Nat} (n : Fin bound) (cs : List Char) :
    (below bound n.val).run cs = some (n, cs) := by
  simp only [below, n.isLt, dite_true]
  rfl

theorem ofLocal?_zero (t : Instant) :
    ofLocal? t.date t.hour t.minute t.second t.nanosecond 0 = some t := by
  have hhour := t.hour.isLt
  have hminute := t.minute.isLt
  have hday : ((t.hour.val : Int) * 60 + t.minute.val - 0) / 1440 = 0 := by omega
  have hofDay : (((t.hour.val : Int) * 60 + t.minute.val - 0) % 1440).toNat =
    t.hour.val * 60 + t.minute.val := by omega
  have hhours : Fin.ofNat 24 ((t.hour.val * 60 + t.minute.val) / 60) = t.hour :=
    Fin.ext (by rw [Fin.val_ofNat]; omega)
  have hminutes : Fin.ofNat 60 (t.hour.val * 60 + t.minute.val) = t.minute :=
    Fin.ext (by rw [Fin.val_ofNat]; omega)
  simp only [ofLocal?, hday, hofDay, hhours, hminutes, Date.shift?, if_true]
  rfl

theorem run_twoDigits {bound : Nat} (hbound : bound ≤ 100) (n : Fin bound) (rest : List Char) :
    (number 2).run (padded 2 n ++ rest) = some (n.val, rest) :=
  run_number (by decide) (n.isLt.trans_le hbound) rest

theorem run_instant (t : Instant) {zone : List Char} (hzone : EndsSecond zone)
    (hoffset : offset.run zone = some (0, [])) :
    instant.run (t.print ++ zone) = some (t, []) := by
  have hT : ['T', 't', ' '].contains 'T' = true := rfl
  have hhour := @run_twoDigits 24 (by decide) t.hour
  have hminute := @run_twoDigits 60 (by decide) t.minute
  have hsecond := @run_twoDigits 61 (by decide) t.second
  have hfraction := run_fraction t.nanosecond.isLt hzone
  have hend : blanks.run [] = some ((), []) := rfl
  simp only [Instant.print, printTime, List.append_assoc, List.cons_append]
  simp only [instant, StateT.run_bind, run_date, run_oneOf hT, run_mark (c := ':') rfl,
    hhour, hminute, hsecond, run_below, hfraction, hoffset, hend, ofLocal?_zero,
    Option.bind_eq_bind, Option.bind_some]
  rfl

end Scan

theorem ofText?_print (t : Instant) {zone : List Char} (hzone : Scan.EndsSecond zone)
    (hoffset : Scan.offset.run zone = some (0, [])) :
    ofText? (String.ofList (t.print ++ zone)) = some t := by
  rw [ofText?, String.toList_ofList, Scan.run_instant t hzone hoffset]
  rfl

/-- A printed instant is read back. -/
theorem ofText?_toText (t : Instant) : ofText? t.toText = some t :=
  ofText?_print t (Scan.without_cons rfl _) rfl

end CertSync.Instant
