import CertSync.Bytes.Basic

/-!
# Hash functions

What a keyed construction needs to know of a hash function, and the padding that the SHA family
shares.
-/

namespace CertSync.Crypto

/-- A hash function with its sizes in bytes. -/
structure HashFunction where
  blockSize : Nat
  digestSize : Nat
  digest : Bytes → Bytes

/-- A one bit, zeros, and the length in bits: the message ends at the end of a block. -/
def padMessage (blockSize lengthSize : Nat) (message : Bytes) : Bytes :=
  let n := message.length
  let zeros := (blockSize - (n + 1 + lengthSize) % blockSize) % blockSize
  message ++ 0x80 :: (List.replicate zeros 0 ++ Bytes.ofNat lengthSize (n * 8))

end CertSync.Crypto
