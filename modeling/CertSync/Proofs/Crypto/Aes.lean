import CertSync.Crypto.Aes
import CertSync.Proofs.Bytes.Basic
import Mathlib.Data.Option.Basic

/-!
# Every text is under some cipher text

Decryption keeps the size of a block, and chaining lets the mask before a block be chosen. So under
any key there is, for every text, a mask and data that decrypt to it.
-/

namespace CertSync

theorem Bytes.length_xor (a b : Bytes) : (Bytes.xor a b).length = min a.length b.length := by
  simp [Bytes.xor]

theorem Bytes.xor_xor {a text : Bytes} (h : a.length = text.length) :
    Bytes.xor a (Bytes.xor a text) = text := by
  induction a generalizing text with
  | nil =>
    rw [List.length_nil] at h
    rw [List.length_eq_zero_iff.mp h.symm]
    rfl
  | cons x a ih =>
    cases text with
    | nil => simp at h
    | cons y text =>
      have hx : x ^^^ (x ^^^ y) = y := by
        rw [← UInt8.xor_assoc, UInt8.xor_self, UInt8.zero_xor]
      have hrest := ih (by simpa using h)
      simp only [Bytes.xor, List.zipWith_cons_cons, hx] at hrest ⊢
      rw [hrest]

namespace Crypto.Aes

/-! ## Blocks -/

theorem length_invShiftRows (block : Bytes) : (invShiftRows block).length = block.length := by
  unfold invShiftRows
  split <;> rfl

theorem length_invMixColumns (block : Bytes) : (invMixColumns block).length = block.length := by
  induction block using invMixColumns.induct with
  | case1 a b c d rest ih => simp [invMixColumns, ih]
  | case2 rest h => rw [invMixColumns.eq_2 rest h]

theorem length_undoRounds {keys : List Bytes} (hkeys : ∀ key ∈ keys, key.length = 16)
    {block : Bytes} (hblock : block.length = 16) : (undoRounds block keys).length = 16 := by
  induction keys generalizing block with
  | nil => exact hblock
  | cons key rest ih =>
    have hkey := hkeys key (by simp)
    have hround : (Bytes.xor ((invShiftRows block).map invSub) key).length = 16 := by
      rw [Bytes.length_xor, List.length_map, length_invShiftRows, hblock, hkey]
      rfl
    cases rest with
    | nil => exact hround
    | cons next rest =>
      rw [undoRounds]
      · exact ih (fun k hk => hkeys k (List.mem_cons_of_mem _ hk))
          (by rw [length_invMixColumns, hround])
      · simp

theorem length_decryptBlock {keys : List Bytes} (hkeys : ∀ key ∈ keys, key.length = 16)
    {block : Bytes} (hblock : block.length = 16) : (decryptBlock keys block).length = 16 := by
  cases keys with
  | nil => exact hblock
  | cons key rest =>
    refine length_undoRounds (fun k hk => hkeys k (List.mem_cons_of_mem _ hk)) ?_
    rw [Bytes.length_xor, hblock, hkeys key (by simp)]
    rfl

/-! ## Round keys -/

theorem length_getD {words : Array Bytes} (hwords : ∀ word ∈ words, word.length = 4) {i : Nat}
    (hi : i < words.size) : (words.getD i []).length = 4 := by
  rw [Array.getD_eq_getD_getElem?, Array.getElem?_eq_getElem hi]
  exact hwords _ (Array.getElem_mem hi)

theorem length_nextWord {keyWords : Nat} {words : Array Bytes}
    (hwords : ∀ word ∈ words, word.length = 4) (hkey : 0 < keyWords)
    (hle : keyWords ≤ words.size) : (nextWord keyWords words.size words).length = 4 := by
  have hlast := length_getD hwords (show words.size - 1 < words.size by omega)
  have hfirst := length_getD hwords (show words.size - keyWords < words.size by omega)
  unfold nextWord
  generalize words.getD (words.size - 1) [] = last at hlast ⊢
  generalize words.getD (words.size - keyWords) [] = first at hfirst ⊢
  rw [Bytes.length_xor, hfirst]
  split
  · simp [Bytes.length_xor, hlast]
  split <;> simp [hlast]

theorem expand_spec {keyWords : Nat} (hkey : 0 < keyWords) {start : Array Bytes}
    (hsize : start.size = keyWords) (hstart : ∀ word ∈ start, word.length = 4) (n : Nat) :
    let words := (List.range n).foldl
      (fun words i => words.push (nextWord keyWords (keyWords + i) words)) start
    words.size = keyWords + n ∧ ∀ word ∈ words, word.length = 4 := by
  induction n with
  | zero => exact ⟨hsize, hstart⟩
  | succ n ih =>
    obtain ⟨ihsize, ihwords⟩ := ih
    rw [List.range_succ, List.foldl_append, List.foldl_cons, List.foldl_nil]
    refine ⟨by rw [Array.size_push, ihsize, Nat.add_assoc], ?_⟩
    intro word hword
    rcases Array.mem_push.mp hword with hword | rfl
    · exact ihwords word hword
    · rw [← ihsize]
      exact length_nextWord ihwords hkey (by omega)

theorem length_of_mem_roundKeys {key : Bytes} (hpos : 0 < key.length) (hkey : 4 ∣ key.length) :
    ∀ roundKey ∈ roundKeys key, roundKey.length = 16 := by
  have hwords := length_of_mem_chunks (show 0 < 4 by decide) hkey
  have hcount : (chunks 4 key).length = key.length / 4 := by
    have hflat := length_flatten_of_runs hwords
    rw [flatten_chunks (by decide)] at hflat
    omega
  have hsize : (chunks 4 key).toArray.size = key.length / 4 := by simpa using hcount
  obtain ⟨hsize, hexpanded⟩ := expand_spec (by omega) hsize (by simpa using hwords)
    (4 * (key.length / 4 + 7) - key.length / 4)
  unfold roundKeys
  refine length_of_mem_chunks (by decide) ?_
  rw [length_flatten_of_runs fun word hword => hexpanded word (by simpa using hword),
    Array.length_toList, hsize]
  exact ⟨key.length / 4 + 7, by omega⟩

/-! ## Chaining -/

theorem exists_unchain {decrypt : Bytes → Bytes}
    (hdecrypt : ∀ block : Bytes, block.length = 16 → (decrypt block).length = 16)
    {blocks : List Bytes} (hblocks : ∀ block ∈ blocks, block.length = 16) :
    ∃ mask sealed, mask.length = 16 ∧ (∀ block ∈ sealed, block.length = 16) ∧
      sealed.length = blocks.length ∧ unchain decrypt mask sealed = blocks.flatten := by
  induction blocks with
  | nil => exact ⟨List.replicate 16 0, [], by simp, by simp, rfl, rfl⟩
  | cons block rest ih =>
    -- The mask that the rest needs is the block to decrypt here.
    obtain ⟨next, sealed, hnext, hsealed, hcount, hrest⟩ :=
      ih fun b hb => hblocks b (List.mem_cons_of_mem _ hb)
    have hlength : (decrypt next).length = block.length := by
      rw [hdecrypt next hnext, hblocks block (by simp)]
    refine ⟨Bytes.xor (decrypt next) block, next :: sealed, ?_, ?_, by simp [hcount], ?_⟩
    · rw [Bytes.length_xor, hlength, hblocks block (by simp)]
      rfl
    · intro b hb
      rcases List.mem_cons.mp hb with rfl | hb
      · exact hnext
      · exact hsealed b hb
    · rw [unchain, Bytes.xor_xor hlength, hrest, List.flatten_cons]

/-! ## Padding -/

def pad (text : Bytes) : Bytes :=
  let n := 16 - text.length % 16
  text ++ List.replicate n n.toUInt8

theorem unpad?_pad (text : Bytes) : unpad? (pad text) = some text := by
  unfold pad
  have hpos : 1 ≤ 16 - text.length % 16 := by omega
  have hle : 16 - text.length % 16 ≤ 16 := by omega
  generalize 16 - text.length % 16 = n at hpos hle ⊢
  have hbyte : n.toUInt8.toNat = n := by
    rw [Nat.toUInt8, UInt8.toNat_ofNat']
    omega
  have hlast : (text ++ List.replicate n n.toUInt8).getLast? = some n.toUInt8 := by
    rw [List.getLast?_append, List.getLast?_replicate, if_neg (by omega), Option.some_or]
  have hlength : (text ++ List.replicate n n.toUInt8).length - n = text.length := by simp
  have hpadding : (List.replicate n n.toUInt8).all (fun b => b.toNat = n) = true := by
    simp [hbyte]
  rw [unpad?, hlast, Option.bind_eq_bind, Option.bind_some]
  simp only [hbyte, hlength, List.take_left, List.drop_left, hpadding]
  simp [guard, hpos, hle]

theorem exists_decryptCbc? {key : Bytes} (hpos : 0 < key.length) (hkey : 4 ∣ key.length)
    (text : Bytes) :
    ∃ iv data, iv.length = 16 ∧ data.length = 16 * (text.length / 16 + 1) ∧
      decryptCbc? key iv data = some text := by
  have hlength : (pad text).length = 16 * (text.length / 16 + 1) := by
    simp only [pad, List.length_append, List.length_replicate]
    omega
  have hkeys : ∀ roundKey ∈ (roundKeys key).reverse, roundKey.length = 16 := fun k hk =>
    length_of_mem_roundKeys hpos hkey k (List.mem_reverse.mp hk)
  have hblocks : ∀ block ∈ chunks 16 (pad text), block.length = 16 :=
    length_of_mem_chunks (by decide) ⟨_, hlength⟩
  obtain ⟨iv, sealed, hiv, hsealed, hcount, htext⟩ :=
    exists_unchain (fun _ hblock => length_decryptBlock hkeys hblock) hblocks
  have hdata : sealed.flatten.length = 16 * (text.length / 16 + 1) := by
    rw [length_flatten_of_runs hsealed, hcount, ← length_flatten_of_runs hblocks,
      flatten_chunks (by decide), hlength]
  refine ⟨iv, sealed.flatten, hiv, hdata, ?_⟩
  have hwhole : sealed.flatten.length % 16 = 0 := by omega
  rw [flatten_chunks (by decide)] at htext
  rw [decryptCbc?]
  simp only [chunks_flatten (show 0 < 16 by decide) hsealed, htext, unpad?_pad, hwhole, guard,
    if_true]
  rfl

end Crypto.Aes

end CertSync
