import CertSync.Crypto.Hash

/-!
# Keys from passphrases

A key is stretched from a passphrase by running a keyed hash on its own output many times.
-/

namespace CertSync.Crypto

/-- The keyed hash: a key that is longer than a block is hashed first, a shorter one is filled up
with zeros. -/
def hmac (hash : HashFunction) (key message : Bytes) : Bytes :=
  let short := if hash.blockSize < key.length then hash.digest key else key
  let full := short ++ List.replicate (hash.blockSize - short.length) 0
  hash.digest (full.map (· ^^^ 0x5C) ++ hash.digest (full.map (· ^^^ 0x36) ++ message))

namespace Pbkdf2

/-- Further outputs, each the keyed hash of the one before, added up without carry. -/
def mix (prf : Bytes → Bytes) : Nat → Bytes → Bytes → Bytes
  | 0, _, sum => sum
  | n + 1, last, sum =>
    let next := prf last
    mix prf n next (Bytes.xor sum next)

/-- One block of the key, by its number from one on. -/
def block (prf : Bytes → Bytes) (salt : Bytes) (iterations number : Nat) : Bytes :=
  let first := prf (salt ++ Bytes.ofNat 4 number)
  mix prf (iterations - 1) first first

end Pbkdf2

/-- A key of `size` bytes, cut from as many blocks as it takes. -/
def pbkdf2 (hash : HashFunction) (passphrase salt : Bytes) (iterations size : Nat) : Bytes :=
  let blocks := (size + hash.digestSize - 1) / hash.digestSize
  ((List.range blocks).flatMap fun i =>
    Pbkdf2.block (hmac hash passphrase) salt iterations (i + 1)).take size

end CertSync.Crypto
