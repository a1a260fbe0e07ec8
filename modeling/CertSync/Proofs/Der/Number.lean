import CertSync.Proofs.Der.Element
import CertSync.Proofs.Traversal

/-!
# Numbers are read as they were written

A number is written in the fewest bytes, with a zero in front of a byte that would make it negative,
or in a fixed number of bytes.
-/

namespace CertSync

/-! ## A fixed width -/

namespace Bytes

theorem length_ofNat (width n : Nat) : (ofNat width n).length = width := by
  induction width generalizing n with
  | zero => rfl
  | succ width ih => rw [ofNat, List.length_append, ih, List.length_singleton]

theorem toNat_ofNat {width n : Nat} (h : n < 256 ^ width) : toNat (ofNat width n) = n := by
  induction width generalizing n with
  | zero =>
    have hzero : n = 0 := by simpa using h
    rw [hzero]
    rfl
  | succ width ih =>
    have hdiv : n / 256 < 256 ^ width := by
      rw [Nat.pow_succ] at h
      omega
    rw [ofNat, toNat_append_singleton, ih hdiv, Nat.toUInt8, UInt8.toNat_ofNat']
    omega

end Bytes

namespace DerElement

/-! ## The fewest bytes -/

theorem natBytes_head_ne_zero {n : Nat} {b : UInt8} {rest : Bytes} (h : natBytes n = b :: rest) :
    b ≠ 0 := by
  by_cases hn : n = 0
  · rw [hn, natBytes_zero] at h
    simp at h
  by_cases hsmall : n / 256 = 0
  · -- The number is its only byte.
    rw [natBytes_of_ne_zero hn, hsmall, natBytes_zero, List.nil_append, List.cons.injEq] at h
    rintro rfl
    have hbyte := congrArg UInt8.toNat h.1
    rw [Nat.toUInt8, UInt8.toNat_ofNat', UInt8.toNat_zero] at hbyte
    omega
  · obtain ⟨c, cs, hcs⟩ := List.exists_cons_of_length_pos (length_natBytes_pos hsmall)
    rw [natBytes_of_ne_zero hn, hcs, List.cons_append, List.cons.injEq] at h
    rw [← h.1]
    exact natBytes_head_ne_zero hcs
termination_by n
decreasing_by omega

theorem naturalOf?_naturalBytes (n : Nat) : naturalOf? (naturalBytes n) = some n := by
  have hvalue := toNat_natBytes n
  unfold naturalBytes
  cases hbytes : natBytes n with
  | nil =>
    rw [hbytes] at hvalue
    rw [← hvalue]
    rfl
  | cons b rest =>
    rw [hbytes] at hvalue
    by_cases hb : b < 0x80
    · have hzero : b ≠ 0 := natBytes_head_ne_zero hbytes
      simp only [hb, if_true]
      cases rest with
      | nil =>
        rw [naturalOf?, if_pos hb, ← hvalue]
        simp [Bytes.toNat]
      | cons c cs =>
        rw [naturalOf?, if_pos hb, hvalue]
        · simp
        · rintro _ _ rfl
          exact absurd rfl hzero
    · simp only [hb, if_false]
      rw [naturalOf?, if_neg hb, hvalue]

theorem natural?_natural (n : Nat) : (natural n).natural? = some n := by
  have hcontents : contentsOf? 0x02 (natural n) = some (naturalBytes n) := rfl
  rw [natural?, hcontents, Option.bind_eq_bind, Option.bind_some, naturalOf?_naturalBytes]

theorem naturalBelow?_natural {bound n : Nat} (h : n < bound) :
    (natural n).naturalBelow? bound = some n := by
  rw [naturalBelow?, natural?_natural, Option.bind_eq_bind, Option.bind_some]
  simp [h, guard]

theorem mapM_natural?_natural (ns : List Nat) : (ns.map natural).mapM natural? = some ns :=
  mapM_map natural?_natural ns

end DerElement

end CertSync
