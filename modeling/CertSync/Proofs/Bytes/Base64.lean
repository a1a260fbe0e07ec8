import CertSync.Bytes.Base64
import Mathlib.Data.Option.Basic

/-!
# Base64 is read as it was written
-/

namespace CertSync.Base64

theorem value?_digit : ∀ n < 64, value? (digit n) = some n := by decide

def IsWritten (c : Char) : Prop := (∃ n < 64, c = digit n) ∨ c = '='

theorem digit_ne_padding : ∀ n < 64, digit n ≠ '=' := by decide

theorem encode_written (bytes : Bytes) : ∀ c ∈ encode bytes, IsWritten c := by
  induction bytes using encode.induct with
  | case1 => simp [encode]
  | case2 a =>
    have ha := a.toNat_lt
    simp only [encode, List.forall_mem_cons]
    exact ⟨.inl ⟨_, by omega, rfl⟩, .inl ⟨_, by omega, rfl⟩, .inr rfl, .inr rfl, by simp⟩
  | case3 a b =>
    have ha := a.toNat_lt
    have hb := b.toNat_lt
    simp only [encode, List.forall_mem_cons]
    exact ⟨.inl ⟨_, by omega, rfl⟩, .inl ⟨_, by omega, rfl⟩, .inl ⟨_, by omega, rfl⟩, .inr rfl,
      by simp⟩
  | case4 a b c rest ih =>
    have ha := a.toNat_lt
    have hb := b.toNat_lt
    have hc := c.toNat_lt
    simp only [encode, List.forall_mem_cons]
    exact ⟨.inl ⟨_, by omega, rfl⟩, .inl ⟨_, by omega, rfl⟩, .inl ⟨_, by omega, rfl⟩,
      .inl ⟨_, by omega, rfl⟩, ih⟩

theorem toUInt8_of_eq {a : UInt8} {n : Nat} (h : n = a.toNat) : n.toUInt8 = a := by
  rw [h]
  exact UInt8.ofNat_toNat

theorem decodeGroup_digits (a b c : UInt8) :
    decodeGroup (digit (a.toNat / 4)) (digit (a.toNat % 4 * 16 + b.toNat / 16))
      (digit (b.toNat % 16 * 4 + c.toNat / 64)) (digit (c.toNat % 64)) = some [a, b, c] := by
  have ha := a.toNat_lt
  have hb := b.toNat_lt
  have hc := c.toNat_lt
  rw [decodeGroup, value?_digit _ (by omega), value?_digit _ (by omega), value?_digit _ (by omega),
    value?_digit _ (by omega)]
  have h1 : (a.toNat / 4 * 4 + (a.toNat % 4 * 16 + b.toNat / 16) / 16).toUInt8 = a :=
    toUInt8_of_eq (by omega)
  have h2 : ((a.toNat % 4 * 16 + b.toNat / 16) % 16 * 16 +
      (b.toNat % 16 * 4 + c.toNat / 64) / 4).toUInt8 = b := toUInt8_of_eq (by omega)
  have h3 : ((b.toNat % 16 * 4 + c.toNat / 64) % 4 * 64 + c.toNat % 64).toUInt8 = c :=
    toUInt8_of_eq (by omega)
  simp only [Option.bind_eq_bind, Option.bind_some, h1, h2, h3, Option.pure_def]

theorem decode?_cons {w x y z : Char} {rest : List Char} (h : rest ≠ []) :
    decode? (w :: x :: y :: z :: rest) =
      (decodeGroup w x y z).bind fun group => (decode? rest).map (group ++ ·) := by
  cases rest with
  | nil => exact absurd rfl h
  | cons r rs =>
    rw [decode?]
    · cases decodeGroup w x y z <;> cases decode? (r :: rs) <;> rfl
    · simp

theorem encode_ne_nil {bytes : Bytes} (h : bytes ≠ []) : encode bytes ≠ [] := by
  cases bytes using encode.fun_cases <;> simp_all [encode]

theorem decode?_encode (bytes : Bytes) : decode? (encode bytes) = some bytes := by
  induction bytes using encode.induct with
  | case1 => rfl
  | case2 a =>
    have ha := a.toNat_lt
    have h : (a.toNat / 4 * 4 + a.toNat % 4 * 16 / 16).toUInt8 = a := toUInt8_of_eq (by omega)
    have hzero : a.toNat % 4 * 16 % 16 = 0 := by omega
    simp only [encode, decode?, decodeLast, value?_digit _ (show a.toNat / 4 < 64 by omega),
      value?_digit _ (show a.toNat % 4 * 16 < 64 by omega), if_true, Option.bind_eq_bind,
      Option.bind_some, hzero, guard, Option.pure_def, h]
  | case3 a b =>
    have ha := a.toNat_lt
    have hb := b.toNat_lt
    have h1 : (a.toNat / 4 * 4 + (a.toNat % 4 * 16 + b.toNat / 16) / 16).toUInt8 = a :=
      toUInt8_of_eq (by omega)
    have h2 : ((a.toNat % 4 * 16 + b.toNat / 16) % 16 * 16 + b.toNat % 16 * 4 / 4).toUInt8 = b :=
      toUInt8_of_eq (by omega)
    have hzero : b.toNat % 16 * 4 % 4 = 0 := by omega
    simp only [encode, decode?, decodeLast, value?_digit _ (show a.toNat / 4 < 64 by omega),
      value?_digit _ (show a.toNat % 4 * 16 + b.toNat / 16 < 64 by omega),
      value?_digit _ (show b.toNat % 16 * 4 < 64 by omega), if_true,
      if_neg (digit_ne_padding _ (show b.toNat % 16 * 4 < 64 by omega)), Option.bind_eq_bind,
      Option.bind_some, hzero, guard, Option.pure_def, h1, h2]
  | case4 a b c rest ih =>
    have hc := c.toNat_lt
    rw [encode]
    by_cases hrest : rest = []
    · subst hrest
      rw [encode, decode?, decodeLast, if_neg (digit_ne_padding _ (by omega))]
      exact decodeGroup_digits a b c
    · rw [decode?_cons (encode_ne_nil hrest), decodeGroup_digits, ih]
      rfl

end CertSync.Base64
