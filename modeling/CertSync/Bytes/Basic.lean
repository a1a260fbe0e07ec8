/-!
# Bytes

Byte strings, their reading as text, and as big-endian numbers.
-/

namespace CertSync

abbrev Bytes := List UInt8

/-- A list cut into runs of `size`, the last one possibly shorter. -/
def chunks (size : Nat) (xs : List α) : List (List α) :=
  if _h : 0 < size ∧ xs ≠ [] then xs.take size :: chunks size (xs.drop size) else []
termination_by xs.length
decreasing_by
  have := List.length_pos_iff.mpr _h.2
  simp only [List.length_drop]
  omega

namespace Bytes

/-- The bytes of a text in UTF-8. -/
def ofText (s : String) : Bytes := s.toUTF8.data.toList

/-- The text that bytes are in UTF-8, if they are one. -/
def toText? (bs : Bytes) : Option String := String.fromUTF8? ⟨bs.toArray⟩

/-- The number that bytes write, most significant first. -/
def toNat (bs : Bytes) : Nat := bs.foldl (fun n b => n * 256 + b.toNat) 0

/-- The lowest `width` bytes of a number, most significant first. -/
def ofNat : Nat → Nat → Bytes
  | 0, _ => []
  | width + 1, n => ofNat width (n / 256) ++ [n.toUInt8]

/-- Byte by byte, as far as both go. -/
def xor (a b : Bytes) : Bytes := List.zipWith (· ^^^ ·) a b

end Bytes

theorem Bytes.toText?_ofText (s : String) : (Bytes.ofText s).toText? = some s := by
  have h : (⟨(Bytes.ofText s).toArray⟩ : ByteArray) = s.toByteArray := by
    simp [Bytes.ofText]
  rw [Bytes.toText?, h]
  simp [String.fromUTF8?, s.isValidUTF8, String.fromUTF8]

end CertSync
