import CertSync.Crypto.Pbkdf2
import CertSync.Crypto.Sha2

/-!
# Scrypt

A key from a passphrase that takes memory to compute. A block is kept as its words, least
significant byte first.
-/

namespace CertSync.Crypto.Scrypt

/-- A piece of sixty-four bytes as sixteen words. -/
abbrev Words := Array UInt32

def rotl (x : UInt32) (n : UInt32) : UInt32 := (x <<< n) ||| (x >>> (32 - n))

def get (ws : Words) (i : Nat) : UInt32 := ws.getD i 0

/-- Four of the words are stirred into one another. -/
def quarter (ws : Words) (a b c d : Nat) : Words :=
  let ws := ws.setIfInBounds b (get ws b ^^^ rotl (get ws a + get ws d) 7)
  let ws := ws.setIfInBounds c (get ws c ^^^ rotl (get ws b + get ws a) 9)
  let ws := ws.setIfInBounds d (get ws d ^^^ rotl (get ws c + get ws b) 13)
  ws.setIfInBounds a (get ws a ^^^ rotl (get ws d + get ws c) 18)

/-- The columns, then the rows. -/
def doubleRound (ws : Words) : Words :=
  [(0, 4, 8, 12), (5, 9, 13, 1), (10, 14, 2, 6), (15, 3, 7, 11),
   (0, 1, 2, 3), (5, 6, 7, 4), (10, 11, 8, 9), (15, 12, 13, 14)].foldl
    (fun ws p => quarter ws p.1 p.2.1 p.2.2.1 p.2.2.2) ws

/-- Eight rounds of stirring, added to what was stirred. -/
def salsa (ws : Words) : Words :=
  let stirred := doubleRound (doubleRound (doubleRound (doubleRound ws)))
  Array.zipWith (· + ·) ws stirred

/-- Chain sixteen-word pieces through the stirring; the even ones end up first. -/
def mixPieces (pieces : List Words) : List Words :=
  let last := pieces.getLastD #[]
  let chained := pieces.foldl
    (fun state piece =>
      let out := salsa (Array.zipWith (· ^^^ ·) state.1 piece)
      (out, out :: state.2))
    (last, [])
  let outs := chained.2.reverse.zipIdx
  let even := outs.filter fun p => p.2 % 2 = 0
  let odd := outs.filter fun p => p.2 % 2 = 1
  (even ++ odd).map Prod.fst

/-- Two blocks, word by word. -/
def xorPieces (a b : List Words) : List Words := List.zipWith (Array.zipWith (· ^^^ ·)) a b

/-- The states that filling the memory goes through, and the state after it. -/
def fill : Nat → List Words → Array (List Words) → Array (List Words) × List Words
  | 0, x, memory => (memory, x)
  | n + 1, x, memory => fill n (mixPieces x) (memory.push x)

/-- Mix with places in the memory that the state itself picks. -/
def wander (cost : Nat) (memory : Array (List Words)) : Nat → List Words → List Words
  | 0, x => x
  | n + 1, x =>
    let place := (get (x.getLastD #[]) 0).toNat + (get (x.getLastD #[]) 1).toNat * UInt32.size
    wander cost memory n (mixPieces (xorPieces x (memory.getD (place % cost) [])))

/-- Four bytes as a word, least significant first. -/
def word (bytes : Bytes) : UInt32 := UInt32.ofNat (Bytes.toNat bytes.reverse)

def wordBytes (w : UInt32) : Bytes := (Bytes.ofNat 4 w.toNat).reverse

/-- The pieces of a block. -/
def pieces (bytes : Bytes) : List Words :=
  (chunks 64 bytes).map fun piece => ((chunks 4 piece).map word).toArray

/-- The memory is filled from the block, and as many steps are made through it. -/
def mixBlock (cost : Nat) (block : Bytes) : Bytes :=
  let filled := fill cost (pieces block) #[]
  (wander cost filled.1 cost filled.2).flatMap fun ws => ws.toList.flatMap wordBytes

end CertSync.Crypto.Scrypt

namespace CertSync.Crypto

/-- A key of `size` bytes. The passphrase is stretched to blocks, each block is mixed, and the mixed
blocks are the salt of the key. -/
def scrypt (passphrase salt : Bytes) (cost blockSize parallel size : Nat) : Bytes :=
  let blocks := pbkdf2 sha256 passphrase salt 1 (parallel * 128 * blockSize)
  let mixed := (chunks (128 * blockSize) blocks).flatMap (Scrypt.mixBlock cost)
  pbkdf2 sha256 passphrase mixed 1 size

end CertSync.Crypto
