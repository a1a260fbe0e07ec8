import CertSync.Json.Basic
import CertSync.Json.Token
import CertSync.Proofs.Text.Decimal
import Mathlib.Data.List.TakeWhile
import Mathlib.Data.Option.Basic
import Std.Data.String.ToNat

/-!
# Integers in JSON

An integer is printed as a number, and that number is the integer again.
-/

namespace CertSync.Json

theorem dropDigits?_toDigits (n : Nat) : Token.dropDigits? (Nat.toDigits 10 n) = some [] := by
  have hdigits := Text.isDigit_toDigits n
  cases h : Nat.toDigits 10 n with
  | nil => exact absurd h Nat.toDigits_ne_nil
  | cons c rest =>
    rw [h, List.forall_mem_cons] at hdigits
    have hrest : rest.dropWhile Char.isDigit = [] := by
      rw [List.dropWhile_eq_nil_iff]
      exact hdigits.2
    rw [Token.dropDigits?, if_pos hdigits.1, hrest]

theorem dropWhole?_toDigits (n : Nat) : Token.dropWhole? (Nat.toDigits 10 n) = some [] := by
  unfold Token.dropWhole?
  split
  · next h => rw [Text.toDigits_leading_zero h]
  · exact dropDigits?_toDigits n

theorem toString_toList (n : Int) :
    (toString n).toList =
      if 0 ≤ n then Nat.toDigits 10 n.toNat else '-' :: Nat.toDigits 10 (-n).toNat := by
  rw [Int.toString_eq_repr, Int.repr_eq_if]
  split
  · exact Nat.toList_repr
  · rw [String.toList_append, Nat.toList_repr]
    rfl

theorem toDigits_ne_minus (n : Nat) (rest : List Char) : Nat.toDigits 10 n ≠ '-' :: rest := by
  intro h
  have hminus := Text.isDigit_toDigits n '-' (h ▸ List.mem_cons_self)
  exact absurd hminus (by decide)

theorem isNumber_toString (n : Int) : Token.isNumber (toString n).toList = true := by
  rw [toString_toList]
  split
  · unfold Token.isNumber
    split
    · next h => exact absurd h (toDigits_ne_minus _ _)
    · simp only [dropWhole?_toDigits]
      rfl
  · simp only [Token.isNumber, dropWhole?_toDigits]
    rfl

theorem toNat?_ofList_toDigits (n : Nat) : (String.ofList (Nat.toDigits 10 n)).toNat? = some n := by
  rw [← Nat.toList_repr, String.ofList_toList, Nat.toNat?_repr]

theorem integer?_ofInt (n : Int) : (ofInt n).integer? = some n := by
  simp only [ofInt, integer?, toString_toList]
  by_cases hsign : 0 ≤ n
  · rw [if_pos hsign]
    have hvalue : (n.toNat : Int) = n := Int.toNat_of_nonneg hsign
    split
    · next h => exact absurd h (toDigits_ne_minus _ _)
    · rw [toNat?_ofList_toDigits, Option.map_some]
      exact congrArg some hvalue
  · rw [if_neg hsign]
    have hvalue : -((-n).toNat : Int) = n := by omega
    have hnonzero : (-n).toNat ≠ 0 := by omega
    simp only [toNat?_ofList_toDigits, Option.bind_eq_bind, Option.bind_some, guard,
      if_pos hnonzero]
    exact congrArg some hvalue

end CertSync.Json
