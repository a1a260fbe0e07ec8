import CertSync.Der.AlgorithmId
import Mathlib.Algebra.Group.Nat.Defs
import Mathlib.Data.Option.Basic

/-!
# Elements are read as they were written
-/

namespace CertSync

theorem Bytes.toNat_append_singleton (bytes : Bytes) (b : UInt8) :
    Bytes.toNat (bytes ++ [b]) = Bytes.toNat bytes * 256 + b.toNat := by
  simp [Bytes.toNat]

namespace DerElement

/-! ## Numbers and lengths -/

theorem natBytes_zero : natBytes 0 = [] := by
  rw [natBytes, if_pos rfl]

theorem natBytes_of_ne_zero {n : Nat} (h : n ≠ 0) :
    natBytes n = natBytes (n / 256) ++ [n.toUInt8] := by
  rw [natBytes, if_neg h]

theorem toNat_natBytes (n : Nat) : Bytes.toNat (natBytes n) = n := by
  by_cases h : n = 0
  · subst h
    rw [natBytes_zero]
    rfl
  · rw [natBytes_of_ne_zero h, Bytes.toNat_append_singleton, toNat_natBytes, Nat.toUInt8,
      UInt8.toNat_ofNat']
    omega
termination_by n
decreasing_by omega

theorem length_natBytes_le {n k : Nat} (h : n < 256 ^ k) : (natBytes n).length ≤ k := by
  induction k generalizing n with
  | zero =>
    have hn : n = 0 := by simpa using h
    rw [hn, natBytes_zero]
    simp
  | succ k ih =>
    by_cases hn : n = 0
    · rw [hn, natBytes_zero]
      simp
    · have hdiv : n / 256 < 256 ^ k := by
        rw [Nat.pow_succ] at h
        omega
      have hlength := ih hdiv
      rw [natBytes_of_ne_zero hn, List.length_append, List.length_singleton]
      omega

theorem length_natBytes_pos {n : Nat} (h : n ≠ 0) : 0 < (natBytes n).length := by
  rw [natBytes_of_ne_zero h]
  simp

theorem readLength?_lengthBytes {n : Nat} (h : n < 256 ^ 4) (rest : Bytes) :
    readLength? (lengthBytes n ++ rest) = some (n, rest) := by
  by_cases hshort : n < 128
  · have hbyte : n.toUInt8.toNat = n := by
      rw [Nat.toUInt8, UInt8.toNat_ofNat']
      omega
    have hlt : n.toUInt8 < 0x80 := by
      rw [UInt8.lt_iff_toNat_lt, hbyte]
      exact hshort
    rw [lengthBytes, if_pos hshort, List.singleton_append, readLength?, if_pos hlt, hbyte]
  · have hlong := lengthBytes.eq_1 n
    rw [if_neg hshort] at hlong
    have hle := length_natBytes_le h
    have hpos := length_natBytes_pos (show n ≠ 0 by omega)
    -- The first byte tells how many more the length takes.
    let b := (0x80 + (natBytes n).length).toUInt8
    have hbyte : b.toNat = 0x80 + (natBytes n).length := by
      simp only [b, Nat.toUInt8, UInt8.toNat_ofNat']
      omega
    have hnlt : ¬b < 0x80 := by
      rw [UInt8.lt_iff_toNat_lt, hbyte]
      simp
    have hsize : b.toNat - 0x80 = (natBytes n).length := by omega
    rw [hlong, List.cons_append, readLength?, if_neg hnlt, hsize]
    simp only [List.take_left, List.drop_left, toNat_natBytes]
    rw [if_pos ⟨hpos, hle, by simp, hlong⟩]

/-! ## Elements -/

/-- What can be written so that it can be read: a tag of one byte, and contents that are not too
long. -/
def IsReadable (e : DerElement) : Prop := isTag e.tag = true ∧ e.contents.length < 0x10000000

theorem read?_write {e : DerElement} (h : IsReadable e) (rest : Bytes) :
    read? (e.write ++ rest) = some (e, rest) := by
  obtain ⟨htag, hlength⟩ := h
  have hle : e.contents.length ≤ (e.contents ++ rest).length := by simp
  have hlt : e.contents.length < 256 ^ 4 := by omega
  rw [write, List.cons_append, List.append_assoc, read?, if_pos htag, readLength?_lengthBytes hlt]
  simp only [Option.bind_eq_bind, Option.bind_some, List.take_left, List.drop_left, hlength, hle,
    and_self, guard, if_true, Option.pure_def]

theorem readOne?_write {e : DerElement} (h : IsReadable e) : readOne? e.write = some e := by
  have hread := read?_write h []
  rw [List.append_nil] at hread
  rw [readOne?, hread]
  rfl

theorem write_ne_nil (e : DerElement) : e.write ≠ [] := by
  rw [write]
  simp

theorem readUpTo?_writeAll {es : List DerElement} (h : ∀ e ∈ es, IsReadable e) {most : Nat}
    (hmost : es.length ≤ most) : readUpTo? most (writeAll es) = some es := by
  induction es generalizing most with
  | nil => rw [writeAll, List.flatMap_nil, readUpTo?]
  | cons e rest ih =>
    cases most with
    | zero => simp at hmost
    | succ most =>
      have hnil : e.write ++ writeAll rest ≠ [] := by simp [write_ne_nil]
      have hrest := ih (fun e he => h e (List.mem_cons_of_mem _ he))
        (by simpa using hmost : rest.length ≤ most)
      have hread := read?_write (h e (by simp)) (writeAll rest)
      change readUpTo? (most + 1) (e.write ++ writeAll rest) = _
      rw [readUpTo?, hread, Option.bind_eq_bind, Option.bind_some]
      · change (readUpTo? most (writeAll rest)).bind _ = _
        rw [hrest]
        rfl
      · exact hnil

theorem length_le_writeAll (es : List DerElement) : es.length ≤ (writeAll es).length := by
  induction es with
  | nil => simp
  | cons e rest ih =>
    have hpos := List.length_pos_iff.mpr (write_ne_nil e)
    simp only [writeAll, List.flatMap_cons, List.length_append, List.length_cons] at ih ⊢
    omega

theorem readAll?_writeAll {es : List DerElement} (h : ∀ e ∈ es, IsReadable e) :
    readAll? (writeAll es) = some es :=
  readUpTo?_writeAll h (length_le_writeAll es)

theorem sequence?_sequence {es : List DerElement} (h : ∀ e ∈ es, IsReadable e) :
    (sequence es).sequence? = some es := by
  have htag : (sequence es).tag = 0x30 := rfl
  rw [sequence?, contentsOf?, if_pos htag]
  exact readAll?_writeAll h

theorem sequence?_pair {a b : DerElement} (ha : a.IsReadable) (hb : b.IsReadable) :
    (sequence [a, b]).sequence? = some [a, b] := by
  apply sequence?_sequence
  intro e he
  simp only [List.mem_cons, List.not_mem_nil, or_false] at he
  rcases he with rfl | rfl
  · exact ha
  · exact hb

/-! ## Sizes -/

theorem length_lengthBytes_le {n : Nat} (h : n < 256 ^ 4) : (lengthBytes n).length ≤ 5 := by
  rw [lengthBytes]
  split
  · simp
  · have hle := length_natBytes_le h
    simp only [List.length_cons]
    omega

theorem length_write_le {e : DerElement} (h : IsReadable e) :
    e.write.length ≤ e.contents.length + 6 := by
  have hle := length_lengthBytes_le (show e.contents.length < 256 ^ 4 by have := h.2; omega)
  rw [write, List.length_cons, List.length_append]
  omega

theorem length_contents_lt (e : DerElement) : e.contents.length < e.write.length := by
  rw [write, List.length_cons, List.length_append]
  omega

theorem length_writeAll_cons_le {e : DerElement} (h : IsReadable e) (es : List DerElement) :
    (writeAll (e :: es)).length ≤ e.contents.length + 6 + (writeAll es).length := by
  have hle := length_write_le h
  rw [writeAll, List.flatMap_cons, List.length_append]
  exact Nat.add_le_add_right hle _

theorem readable_pair {a b : DerElement} (ha : IsReadable a) (hb : IsReadable b)
    (h : a.contents.length + b.contents.length + 12 < 0x10000000) :
    IsReadable (sequence [a, b]) ∧
      (sequence [a, b]).contents.length ≤ a.contents.length + b.contents.length + 12 := by
  have hfirst := length_writeAll_cons_le ha [b]
  have hsecond := length_writeAll_cons_le hb []
  have hnil : (writeAll []).length = 0 := rfl
  have hle : (sequence [a, b]).contents.length ≤ a.contents.length + b.contents.length + 12 := by
    change (writeAll [a, b]).length ≤ _
    omega
  exact ⟨⟨rfl, by omega⟩, hle⟩

theorem length_write_le_of_mem {e : DerElement} {es : List DerElement} (h : e ∈ es) :
    e.write.length ≤ (writeAll es).length := by
  induction es with
  | nil => simp at h
  | cons d rest ih =>
    rw [writeAll, List.flatMap_cons, List.length_append]
    rcases List.mem_cons.mp h with rfl | h
    · exact Nat.le_add_right _ _
    · exact Nat.le_trans (ih h) (Nat.le_add_left _ _)

theorem read_sequence {es : List DerElement} (htags : ∀ e ∈ es, isTag e.tag = true)
    (hlength : (sequence es).write.length < 0x10000000) :
    ∃ whole, readOne? (sequence es).write = some whole ∧ whole.sequence? = some es := by
  have hcontents := length_contents_lt (sequence es)
  have hwhole : IsReadable (sequence es) := ⟨rfl, by omega⟩
  have hparts : ∀ e ∈ es, IsReadable e := by
    intro e he
    have hwritten : e.write.length ≤ (sequence es).contents.length := length_write_le_of_mem he
    have hpart := length_contents_lt e
    exact ⟨htags e he, by omega⟩
  exact ⟨_, readOne?_write hwhole, sequence?_sequence hparts⟩

end DerElement

/-! ## Algorithm identifiers -/

theorem AlgorithmId.ofDer?_toDer {id : ObjectId} {parameters : DerElement}
    (hid : ObjectId.ofBytes? id.bytes = some id) (hreadable : (DerElement.objectId id).IsReadable)
    (hparameters : parameters.IsReadable) :
    ofDer? (toDer ⟨id, some parameters⟩) = some ⟨id, some parameters⟩ := by
  have hobject : (DerElement.objectId id).objectId? = some id := hid
  have hsequence : (toDer ⟨id, some parameters⟩).sequence? =
      some [DerElement.objectId id, parameters] := DerElement.sequence?_pair hreadable hparameters
  rw [ofDer?, hsequence, Option.bind_eq_bind, Option.bind_some]
  simp only [hobject]
  rfl

end CertSync
