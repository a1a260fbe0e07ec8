import CertSync.Crypto.Aes
import CertSync.Crypto.Scrypt
import CertSync.Crypto.Sha1
import CertSync.Der.AlgorithmId

/-!
# Encrypted key containers

A private key under a passphrase: how a cipher key is derived from the passphrase, and the data
that the cipher made. A container opens if the data decrypts and its padding is right; what comes
out may still be no key.
-/

namespace CertSync

/-- How a cipher key is made of a passphrase, with all that this takes. -/
inductive KeyDerivation where
  | pbkdf2 (hash : Crypto.HashFunction) (salt : Bytes) (iterations : Nat)
  | scrypt (salt : Bytes) (cost blockSize parallel : Nat)

/-- A key that is encrypted under a passphrase. -/
structure KeyContainer where
  derivation : KeyDerivation
  keySize : Nat
  iv : Bytes
  data : Bytes

namespace KeyContainer

/-! ## Identifiers -/

/-- The scheme that names a derivation and a cipher of its own. -/
def pbes2 : ObjectId := ⟨[0x2A, 0x86, 0x48, 0x86, 0xF7, 0x0D, 0x01, 0x05, 0x0D]⟩

def pbkdf2 : ObjectId := ⟨[0x2A, 0x86, 0x48, 0x86, 0xF7, 0x0D, 0x01, 0x05, 0x0C]⟩

def scrypt : ObjectId := ⟨[0x2B, 0x06, 0x01, 0x04, 0x01, 0xDA, 0x47, 0x04, 0x0B]⟩

def hashes : List (UInt8 × Crypto.HashFunction) :=
  [(0x07, Crypto.sha1), (0x08, Crypto.sha224), (0x09, Crypto.sha256), (0x0A, Crypto.sha384),
   (0x0B, Crypto.sha512)]

/-- The hash function of a keyed hash. -/
def hash? (id : ObjectId) : Option Crypto.HashFunction :=
  match id.bytes with
  | [0x2A, 0x86, 0x48, 0x86, 0xF7, 0x0D, 0x02, n] => hashes.lookup n
  | _ => none

/-- The bytes that a key of each cipher has. -/
def keySizes : List (UInt8 × Nat) := [(0x02, 16), (0x16, 24), (0x2A, 32)]

/-- The size of the key that a cipher takes. It is known for AES with chaining only. -/
def keySize? (id : ObjectId) : Option Nat :=
  match id.bytes with
  | [0x60, 0x86, 0x48, 0x01, 0x65, 0x03, 0x04, 0x01, n] => keySizes.lookup n
  | _ => none

/-! ## Reading -/

/-- A derivation that says how long a key it makes must make the one that the cipher needs. -/
def isKeySize (keySize : Nat) (e : DerElement) : Bool :=
  e.naturalBelow? UInt16.size = some keySize

/-- The hash function that a derivation is told to use. Its own parameters have to be null. -/
def keyedHash? (e : DerElement) : Option Crypto.HashFunction := do
  let a ← AlgorithmId.ofDer? e
  guard ((← a.parameters).isNull)
  hash? a.id

/-- The salt and the count come first. Behind them the size of the key and the hash function may be
left out, the latter being SHA-1 then. -/
def pbkdf2? (keySize : Nat) : List DerElement → Option KeyDerivation
  | salt :: iterations :: rest => do
    let derive (hash : Crypto.HashFunction) : Option KeyDerivation :=
      return .pbkdf2 hash (← salt.octets?) (← iterations.naturalBelow? UInt32.size)
    match rest with
    | [] => derive Crypto.sha1
    | [e] =>
      if e.tag = 0x02 then
        guard (isKeySize keySize e)
        derive Crypto.sha1
      else derive (← keyedHash? e)
    | [size, e] =>
      guard (isKeySize keySize size)
      derive (← keyedHash? e)
    | _ => none
  | _ => none

/-- The limits within which the memory of a derivation can be counted. -/
def isScryptCost (cost blockSize parallel : Nat) : Bool :=
  0 < cost && 1 <<< Nat.log2 cost = cost && 0 < blockSize && 0 < parallel &&
    Nat.log2 cost < blockSize * 16 && blockSize * parallel < 0x40000000 &&
    128 * blockSize * cost < UInt64.size

/-- The salt, the three costs, and the size of the key, which may be left out. -/
def scrypt? (keySize : Nat) : List DerElement → Option KeyDerivation
  | salt :: cost :: blockSize :: parallel :: rest => do
    let cost ← cost.naturalBelow? UInt64.size
    let blockSize ← blockSize.naturalBelow? UInt16.size
    let parallel ← parallel.naturalBelow? UInt16.size
    guard (isScryptCost cost blockSize parallel)
    match rest with
    | [] => pure ()
    | [size] => guard (isKeySize keySize size)
    | _ => none
    return .scrypt (← salt.octets?) cost blockSize parallel
  | _ => none

/-- One of the two derivations, which has to make keys of the size. -/
def derivation? (keySize : Nat) (a : AlgorithmId) : Option KeyDerivation := do
  let parameters ← (← a.parameters).sequence?
  if a.id = pbkdf2 then pbkdf2? keySize parameters
  else if a.id = scrypt then scrypt? keySize parameters
  else none

/-- The size of the key that the cipher takes, and what the first block is masked with. -/
def cipher? (a : AlgorithmId) : Option (Nat × Bytes) := do
  let iv ← (← a.parameters).octets?
  guard (iv.length = 16)
  return (← keySize? a.id, iv)

/-- The container that the bytes are. -/
def ofDer? (bytes : Bytes) : Option KeyContainer := do
  let [scheme, data] ← (← DerElement.readOne? bytes).sequence? | none
  let scheme ← AlgorithmId.ofDer? scheme
  guard (scheme.id = pbes2)
  let [derivation, cipher] ← (← scheme.parameters).sequence? | none
  let (keySize, iv) ← cipher? (← AlgorithmId.ofDer? cipher)
  let derivation ← derivation? keySize (← AlgorithmId.ofDer? derivation)
  return { derivation, keySize, iv, data := ← data.octets? }

/-! ## Opening -/

/-- The key of that size which the passphrase gives. -/
def cipherKey (passphrase : Bytes) (size : Nat) : KeyDerivation → Bytes
  | .pbkdf2 hash salt iterations => Crypto.pbkdf2 hash passphrase salt iterations size
  | .scrypt salt cost blockSize parallel =>
    Crypto.scrypt passphrase salt cost blockSize parallel size

/-- What the container holds under the passphrase. There is none if the padding comes out wrong. -/
def open? (c : KeyContainer) (passphrase : Bytes) : Option Bytes :=
  Crypto.Aes.decryptCbc? (cipherKey passphrase c.keySize c.derivation) c.iv c.data

end KeyContainer

end CertSync
