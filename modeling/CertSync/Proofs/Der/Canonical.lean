import CertSync.Proofs.Der.Number
import Mathlib.Data.List.Induction

/-!
# What is read is what was written

Reading is strict: bytes are read as an element only if they are its written form. So each element
has one form, and different elements have different ones.
-/

namespace CertSync

namespace DerElement

/-! ## Elements -/

theorem eq_of_readLength? {bytes rest : Bytes} {n : Nat} (h : readLength? bytes = some (n, rest)) :
    bytes = lengthBytes n ++ rest := by
  cases bytes with
  | nil => cases h
  | cons b tail =>
    rw [readLength?] at h
    split at h
    · next hshort =>
      cases h
      have hlt : b.toNat < 128 := UInt8.lt_iff_toNat_lt.mp hshort
      rw [lengthBytes, if_pos hlt, Nat.toUInt8, UInt8.ofNat_toNat, List.singleton_append]
    · dsimp only at h
      split at h
      · next hlong =>
        rw [Option.some.injEq, Prod.mk.injEq] at h
        obtain ⟨rfl, rfl⟩ := h
        rw [hlong.2.2.2, List.cons_append, List.take_append_drop]
      · cases h

theorem read?_eq_some_iff {bytes rest : Bytes} {e : DerElement} :
    read? bytes = some (e, rest) ↔ e.IsReadable ∧ bytes = e.write ++ rest := by
  constructor
  · intro h
    cases bytes with
    | nil => cases h
    | cons tag tail =>
      rw [read?] at h
      split at h
      · next htag =>
        simp only [Option.bind_eq_bind, Option.bind_eq_some_iff] at h
        obtain ⟨⟨n, contents⟩, hlength, _, hguard, he⟩ := h
        obtain ⟨hbound, hle⟩ : n < 0x10000000 ∧ n ≤ contents.length := by
          by_contra hnot
          simp [guard, hnot] at hguard
        cases he
        have htake : (contents.take n).length = n := List.length_take_of_le hle
        refine ⟨⟨htag, htake.symm ▸ hbound⟩, ?_⟩
        rw [write, htake, eq_of_readLength? hlength, List.cons_append, List.append_assoc,
          List.take_append_drop]
      · cases h
  · rintro ⟨hreadable, rfl⟩
    exact read?_write hreadable rest

theorem readOne?_eq_some_iff {bytes : Bytes} {e : DerElement} :
    readOne? bytes = some e ↔ e.IsReadable ∧ bytes = e.write := by
  constructor
  · intro h
    unfold readOne? at h
    simp only [Option.bind_eq_bind, Option.bind_eq_some_iff] at h
    obtain ⟨⟨d, rest⟩, hread, _, hguard, he⟩ := h
    cases he
    have hrest : rest = [] := by
      by_contra hnot
      simp [guard, hnot] at hguard
    rw [hrest, read?_eq_some_iff, List.append_nil] at hread
    exact hread
  · rintro ⟨hreadable, rfl⟩
    exact readOne?_write hreadable

theorem eq_of_readUpTo? {most : Nat} {bytes : Bytes} {es : List DerElement}
    (h : readUpTo? most bytes = some es) : bytes = writeAll es := by
  induction most generalizing bytes es with
  | zero =>
    cases bytes with
    | nil =>
      cases h
      rfl
    | cons b tail => cases h
  | succ most ih =>
    cases bytes with
    | nil =>
      cases h
      rfl
    | cons b tail =>
      rw [readUpTo?] at h
      · simp only [Option.bind_eq_bind, Option.bind_eq_some_iff] at h
        obtain ⟨⟨e, rest⟩, hread, more, hmore, hes⟩ := h
        cases hes
        rw [(read?_eq_some_iff.mp hread).2]
        exact congrArg (e.write ++ ·) (ih hmore)
      · simp

theorem eq_of_contentsOf? {tag : UInt8} {e : DerElement} {contents : Bytes}
    (h : contentsOf? tag e = some contents) : e = ⟨tag, contents⟩ := by
  unfold contentsOf? at h
  split at h
  · next htag =>
    cases h
    cases e
    exact congrArg (DerElement.mk · _) htag
  · cases h

theorem eq_of_sequence? {e : DerElement} {es : List DerElement} (h : e.sequence? = some es) :
    e = sequence es := by
  obtain ⟨contents, hcontents, hall⟩ := Option.bind_eq_some_iff.mp h
  rw [eq_of_contentsOf? hcontents, eq_of_readUpTo? hall]
  rfl

theorem eq_of_write_eq {a b : DerElement} (ha : a.IsReadable) (h : a.write = b.write) : a = b := by
  have halength := length_write_le ha
  have hblength := length_contents_lt b
  have hashort := ha.2
  rw [← h] at hblength
  rw [write, write, List.cons.injEq] at h
  -- The lengths are short enough to be read, so they and what follows them are the same.
  have haread := readLength?_lengthBytes (show a.contents.length < 256 ^ 4 by omega) a.contents
  have hbread := readLength?_lengthBytes (show b.contents.length < 256 ^ 4 by omega) b.contents
  rw [h.2, hbread, Option.some.injEq, Prod.mk.injEq] at haread
  cases a
  cases b
  exact mk.injEq .. ▸ ⟨h.1, haread.2.symm⟩

/-! ## Numbers -/

theorem natBytes_toNat {b : UInt8} (hb : b ≠ 0) (rest : Bytes) :
    natBytes (Bytes.toNat (b :: rest)) = b :: rest := by
  induction rest using List.reverseRecOn with
  | nil =>
    have hlt := b.toNat_lt
    have hvalue : Bytes.toNat [b] = b.toNat := by simp [Bytes.toNat]
    have hne : b.toNat ≠ 0 := fun h => hb (UInt8.toNat_inj.mp h)
    rw [hvalue, natBytes_of_ne_zero hne, Nat.div_eq_of_lt hlt, natBytes_zero, Nat.toUInt8,
      UInt8.ofNat_toNat, List.nil_append]
  | append_singleton rest c ih =>
    have hlt := c.toNat_lt
    have hpos : Bytes.toNat (b :: rest) ≠ 0 := by
      intro h
      rw [h, natBytes_zero] at ih
      cases ih
    have hdiv : (Bytes.toNat (b :: rest) * 256 + c.toNat) / 256 = Bytes.toNat (b :: rest) := by omega
    have hbyte : (Bytes.toNat (b :: rest) * 256 + c.toNat).toUInt8 = c := by
      apply UInt8.toNat_inj.mp
      rw [Nat.toUInt8, UInt8.toNat_ofNat']
      omega
    rw [← List.cons_append, Bytes.toNat_append_singleton, natBytes_of_ne_zero (by omega), hdiv, ih,
      hbyte]

theorem naturalBytes_toNat {b : UInt8} (hb : b ≠ 0) (rest : Bytes) :
    naturalBytes (Bytes.toNat (b :: rest)) = if b < 0x80 then b :: rest else 0 :: b :: rest := by
  unfold naturalBytes
  rw [natBytes_toNat hb]

theorem eq_of_naturalOf? {bytes : Bytes} {n : Nat} (h : naturalOf? bytes = some n) :
    bytes = naturalBytes n := by
  unfold naturalOf? at h
  split at h
  · cases h
  · next b =>
    split at h
    · next hlt =>
      cases h
      by_cases hb : b = 0
      · subst hb
        simp [naturalBytes, natBytes_zero]
      · have hvalue : Bytes.toNat [b] = b.toNat := by simp [Bytes.toNat]
        rw [← hvalue, naturalBytes_toNat hb, if_pos hlt]
    · cases h
  · next b rest =>
    split at h
    · cases h
    · next hlt =>
      cases h
      have hb : b ≠ 0 := by
        rintro rfl
        exact hlt (by decide)
      rw [naturalBytes_toNat hb, if_neg hlt]
  · next b rest hsingle hzero =>
    split at h
    · next hlt =>
      cases h
      have hb : b ≠ 0 := by
        rintro rfl
        cases rest with
        | nil => exact hsingle rfl
        | cons c cs => exact hzero c cs rfl rfl
      rw [naturalBytes_toNat hb, if_pos hlt]
    · cases h

theorem eq_of_natural? {e : DerElement} {n : Nat} (h : e.natural? = some n) : e = natural n := by
  obtain ⟨contents, hcontents, hnumber⟩ := Option.bind_eq_some_iff.mp h
  rw [eq_of_contentsOf? hcontents, eq_of_naturalOf? hnumber]
  rfl

end DerElement

end CertSync
