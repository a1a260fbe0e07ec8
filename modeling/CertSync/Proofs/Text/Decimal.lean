import CertSync.Text.Decimal
import Mathlib.Algebra.Group.Nat.Defs
import Mathlib.Data.List.Induction
import Mathlib.Data.Option.Basic

/-!
# Digits and their value

The digits of a number have the value of that number, and so they have with zeros before them. A
setting gives a number by such digits, however many, if the number is small enough.
-/

namespace CertSync.Text

theorem digitsValue_toDigits (n : Nat) : digitsValue (Nat.toDigits 10 n) = n := by
  have hfold : ∀ ds, digitsValue ds = Nat.ofDigitChars 10 ds 0 := by
    intro ds
    simp only [digitsValue, Nat.ofDigitChars_eq_foldl, Nat.mul_comm]
    rfl
  rw [hfold, Nat.ofDigitChars_ten_toDigits]

theorem digitsValue_leading_zeros (zeros : Nat) (ds : List Char) :
    digitsValue (List.replicate zeros '0' ++ ds) = digitsValue ds := by
  induction zeros with
  | zero => rfl
  | succ zeros ih => exact ih

theorem digitsValue_trailing_zeros (ds : List Char) (zeros : Nat) :
    digitsValue (ds ++ List.replicate zeros '0') = digitsValue ds * 10 ^ zeros := by
  induction zeros with
  | zero => simp
  | succ zeros ih =>
    have hzero : ('0' : Char).toNat - 48 = 0 := rfl
    simp only [digitsValue] at ih ⊢
    rw [List.replicate_succ', ← List.append_assoc, List.foldl_append, ih, Nat.pow_succ,
      List.foldl_cons, List.foldl_nil, hzero, Nat.add_zero, Nat.mul_assoc]

theorem isDigit_toDigits (n : Nat) : ∀ c ∈ Nat.toDigits 10 n, c.isDigit = true :=
  fun _ hc => Nat.isDigit_of_mem_toDigits (by decide) (by decide) hc

theorem toDigits_leading_zero {n : Nat} {rest : List Char} (h : Nat.toDigits 10 n = '0' :: rest) :
    rest = [] := by
  induction n using Nat.strongRecOn generalizing rest with
  | ind n ih =>
    by_cases hn : n < 10
    · rw [Nat.toDigits_of_lt_base hn] at h
      exact (List.cons.inj h).2.symm
    · rw [Nat.toDigits_of_base_le (by decide) (by omega)] at h
      cases hfront : Nat.toDigits 10 (n / 10) with
      | nil => exact absurd hfront Nat.toDigits_ne_nil
      | cons c front =>
        rw [hfront, List.cons_append, List.cons.injEq] at h
        obtain ⟨rfl, -⟩ := h
        -- The digits before the last are those of a tenth, which would be zero.
        have hnil := ih (n / 10) (by omega) hfront
        have hvalue := digitsValue_toDigits (n / 10)
        rw [hfront, hnil] at hvalue
        have hzero : digitsValue ['0'] = 0 := rfl
        omega

/-! ## Numbers in settings -/

/-- One digit or more, and the number that they stand for. -/
inductive IsDecimal : List Char → Nat → Prop
  | digit {d : Nat} (hd : d < 10) : IsDecimal [d.digitChar] d
  | append {ds : List Char} {n d : Nat} (h : IsDecimal ds n) (hd : d < 10) :
      IsDecimal (ds ++ [d.digitChar]) (10 * n + d)

/-- A plus sign may stand before the digits, but no other sign. -/
inductive IsUnsigned : List Char → Nat → Prop
  | plain {ds : List Char} {n : Nat} (h : IsDecimal ds n) : IsUnsigned ds n
  | signed {ds : List Char} {n : Nat} (h : IsDecimal ds n) : IsUnsigned ('+' :: ds) n

theorem exists_digitChar {c : Char} (h : c.isDigit = true) : ∃ d < 10, d.digitChar = c := by
  obtain ⟨hlow, hhigh⟩ := Char.isDigit_iff_toNat.mp h
  have hlow : 48 ≤ c.toNat := hlow
  have hhigh : c.toNat ≤ 57 := hhigh
  have hd : c.toNat - 48 < 10 := by omega
  refine ⟨c.toNat - 48, hd, Char.toNat_inj.mp ?_⟩
  rw [Nat.toNat_digitChar_of_lt_ten hd]
  omega

theorem digitsValue_append_digit (ds : List Char) {d : Nat} (hd : d < 10) :
    digitsValue (ds ++ [d.digitChar]) = 10 * digitsValue ds + d := by
  simp only [digitsValue, List.foldl_append, List.foldl_cons, List.foldl_nil,
    Nat.toNat_digitChar_sub_48_of_lt_ten hd, Nat.mul_comm]

theorem isDecimal_iff {ds : List Char} {n : Nat} :
    IsDecimal ds n ↔ ds ≠ [] ∧ (∀ c ∈ ds, c.isDigit = true) ∧ digitsValue ds = n := by
  constructor
  · intro h
    induction h with
    | @digit d hd =>
      refine ⟨List.cons_ne_nil _ _, by simpa [Nat.isDigit_digitChar] using hd, ?_⟩
      simpa [digitsValue] using digitsValue_append_digit [] hd
    | @append ds n d _ hd ih =>
      obtain ⟨-, hdigits, hvalue⟩ := ih
      refine ⟨List.append_ne_nil_of_right_ne_nil _ (List.cons_ne_nil _ _), fun c hc => ?_, ?_⟩
      · rcases List.mem_append.mp hc with hc | hc
        · exact hdigits c hc
        · rw [List.mem_singleton.mp hc, Nat.isDigit_digitChar]
          exact decide_eq_true hd
      · rw [digitsValue_append_digit ds hd, hvalue]
  · rintro ⟨hne, hdigits, rfl⟩
    -- A numeral grows at its end, so the induction takes the last digit off.
    induction ds using List.reverseRecOn with
    | nil => exact absurd rfl hne
    | append_singleton front c ih =>
      obtain ⟨d, hd, rfl⟩ := exists_digitChar (hdigits c (by simp))
      rw [digitsValue_append_digit front hd]
      by_cases hfront : front = []
      · subst hfront
        simpa [digitsValue] using IsDecimal.digit hd
      · exact (ih hfront fun c hc => hdigits c (List.mem_append_left _ hc)).append hd

theorem isUnsigned_iff {cs : List Char} {n : Nat} :
    IsUnsigned cs n ↔ IsDecimal (match cs with | '+' :: rest => rest | cs => cs) n := by
  constructor
  · intro h
    cases h with
    | plain h =>
      split
      · exact absurd ((isDecimal_iff.mp h).2.1 '+' List.mem_cons_self) (by decide)
      · exact h
    | signed h => exact h
  · intro h
    split at h
    · exact .signed h
    · exact .plain h

theorem IsUnsigned.unique {cs : List Char} {n m : Nat} (hn : IsUnsigned cs n)
    (hm : IsUnsigned cs m) : n = m :=
  (isDecimal_iff.mp (isUnsigned_iff.mp hn)).2.2.symm.trans
    (isDecimal_iff.mp (isUnsigned_iff.mp hm)).2.2

/-- Each number below the bound is read, and nothing else is. -/
theorem unsignedBelow?_eq_some_iff {bound n : Nat} {s : String} :
    unsignedBelow? bound s = some n ↔ n < bound ∧ IsUnsigned s.toList n := by
  rw [isUnsigned_iff, isDecimal_iff]
  simp only [unsignedBelow?, Option.bind_eq_bind, Option.bind_eq_some_iff, Option.guard_eq_some',
    Option.pure_def, Option.some.injEq, Bool.and_eq_true, Bool.not_eq_true',
    List.isEmpty_eq_false_iff, List.all_eq_true]
  constructor
  · rintro ⟨-, ⟨hne, hdigits⟩, -, hn, rfl⟩
    exact ⟨hn, hne, hdigits, rfl⟩
  · rintro ⟨hn, hne, hdigits, rfl⟩
    exact ⟨(), ⟨hne, hdigits⟩, (), hn, rfl⟩

end CertSync.Text
