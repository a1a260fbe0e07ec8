import CertSync.Bytes.Basic

/-!
# AES decryption

The inverse cipher for keys of 16, 24 or 32 bytes, and its use with chaining and padding. A block
is its sixteen bytes, column after column. The substitution is computed from the field it is
defined over.
-/

namespace CertSync.Crypto.Aes

/-! ## The field of 256 elements -/

/-- Multiplication by two, reduced by the polynomial of the field. -/
def double (a : UInt8) : UInt8 := (a <<< 1) ^^^ (if a < 0x80 then 0 else 0x1B)

/-- The product, by the lowest `bits` bits of `b`. -/
def mulBits (a b : UInt8) : Nat → UInt8
  | 0 => 0
  | bits + 1 => (if b % 2 = 1 then a else 0) ^^^ mulBits (double a) (b / 2) bits

/-- The product in the field. -/
def mul (a b : UInt8) : UInt8 := mulBits a b 8

def power (a : UInt8) : Nat → UInt8
  | 0 => 1
  | n + 1 => mul a (power a n)

/-! ## Substitution -/

def rotl (a : UInt8) (n : UInt8) : UInt8 := (a <<< n) ||| (a >>> (8 - n))

/-- The inverse in the field, where zero is its own, and an affine map. -/
def substitute (a : UInt8) : UInt8 :=
  let i := power a 254
  i ^^^ rotl i 1 ^^^ rotl i 2 ^^^ rotl i 3 ^^^ rotl i 4 ^^^ 0x63

/-- The substitution of each byte. -/
def table : Array UInt8 := ((List.range 256).map fun n => substitute n.toUInt8).toArray

/-- The byte that each is the substitution of. -/
def inverseTable : Array UInt8 :=
  (List.range 256).foldl (fun t n => t.setIfInBounds (table.getD n 0).toNat n.toUInt8)
    (Array.replicate 256 0)

def sub (a : UInt8) : UInt8 := table.getD a.toNat 0

def invSub (a : UInt8) : UInt8 := inverseTable.getD a.toNat 0

/-! ## Round keys -/

/-- The next word of an expanded key: the word one key length before it, masked by the last word,
which is turned and substituted at the start of each key length. -/
def nextWord (keyWords place : Nat) (words : Array Bytes) : Bytes :=
  let last := words.getD (place - 1) []
  let mask :=
    if place % keyWords = 0 then
      Bytes.xor ((last.drop 1 ++ last.take 1).map sub) [power 2 (place / keyWords - 1), 0, 0, 0]
    else if 6 < keyWords ∧ place % keyWords = 4 then last.map sub
    else last
  Bytes.xor (words.getD (place - keyWords) []) mask

/-- One key of sixteen bytes for each round and one more. -/
def roundKeys (key : Bytes) : List Bytes :=
  let keyWords := key.length / 4
  let words := (List.range (4 * (keyWords + 7) - keyWords)).foldl
    (fun words i => words.push (nextWord keyWords (keyWords + i) words))
    (chunks 4 key).toArray
  chunks 16 words.toList.flatten

/-! ## Blocks -/

/-- Each row turned right by its number. -/
def invShiftRows : Bytes → Bytes
  | [a0, a1, a2, a3, b0, b1, b2, b3, c0, c1, c2, c3, d0, d1, d2, d3] =>
    [a0, d1, c2, b3, b0, a1, d2, c3, c0, b1, a2, d3, d0, c1, b2, a3]
  | block => block

/-- Each column is multiplied by the inverse of the matrix that the cipher mixes it with. -/
def invMixColumns : Bytes → Bytes
  | a :: b :: c :: d :: rest =>
    (mul a 14 ^^^ mul b 11 ^^^ mul c 13 ^^^ mul d 9) ::
    (mul a 9 ^^^ mul b 14 ^^^ mul c 11 ^^^ mul d 13) ::
    (mul a 13 ^^^ mul b 9 ^^^ mul c 14 ^^^ mul d 11) ::
    (mul a 11 ^^^ mul b 13 ^^^ mul c 9 ^^^ mul d 14) :: invMixColumns rest
  | rest => rest

/-- The rounds are undone from the last one on; the one that comes last here mixes no columns. -/
def undoRounds (block : Bytes) : List Bytes → Bytes
  | [] => block
  | [key] => Bytes.xor ((invShiftRows block).map invSub) key
  | key :: keys =>
    undoRounds (invMixColumns (Bytes.xor ((invShiftRows block).map invSub) key)) keys

/-- A block is decrypted under round keys that are given last first. -/
def decryptBlock (keys : List Bytes) (block : Bytes) : Bytes :=
  match keys with
  | [] => block
  | key :: rest => undoRounds (Bytes.xor block key) rest

/-! ## Chaining and padding -/

/-- Each block is masked by the encrypted block before it. -/
def unchain (decrypt : Bytes → Bytes) (mask : Bytes) : List Bytes → Bytes
  | [] => []
  | block :: rest => Bytes.xor (decrypt block) mask ++ unchain decrypt block rest

/-- The last byte tells how many bytes of its own value end the last block. -/
def unpad? (bytes : Bytes) : Option Bytes := do
  let n := (← bytes.getLast?).toNat
  guard (1 ≤ n ∧ n ≤ 16 ∧ n ≤ bytes.length)
  let text := bytes.take (bytes.length - n)
  guard ((bytes.drop (bytes.length - n)).all fun b => b.toNat = n)
  return text

/-- The text under chained blocks and padding, if there are whole blocks and the padding is
right. -/
def decryptCbc? (key iv data : Bytes) : Option Bytes := do
  guard (data.length % 16 = 0)
  let keys := (roundKeys key).reverse
  unpad? (unchain (decryptBlock keys) iv (chunks 16 data))

end CertSync.Crypto.Aes
