import CertSync.Key.Document

/-!
# RSA keys

A key with two primes. The numbers that only speed its use up are not kept but computed anew when
the key is written.
-/

namespace CertSync

/-- The numbers that make a key with two primes. -/
structure RsaKey where
  modulus : Nat
  publicExponent : Nat
  privateExponent : Nat
  prime1 : Nat
  prime2 : Nat
deriving DecidableEq

namespace RsaKey

/-- Public exponents have 33 bits at most. -/
def maxPublicExponent : Nat := 0x1FFFFFFFF

/-- The numbers belong together. That the primes are prime is not tested. -/
def Valid (k : RsaKey) : Prop :=
  k.modulus % 2 = 1 ∧ k.publicExponent % 2 = 1 ∧
  2 ≤ k.publicExponent ∧ k.publicExponent ≤ maxPublicExponent ∧ k.publicExponent < k.modulus ∧
  1 < k.prime1 ∧ 1 < k.prime2 ∧ k.prime1 * k.prime2 = k.modulus ∧
  k.privateExponent * k.publicExponent % (k.prime1 - 1) = 1 ∧
  k.privateExponent * k.publicExponent % (k.prime2 - 1) = 1

instance (k : RsaKey) : Decidable k.Valid := by unfold Valid; infer_instance

/-! ## Inverses -/

/-- The greatest common divisor of `r` and `s`, with the factor that goes with it. -/
def euclid (r s : Nat) (x y : Int) : Nat × Int :=
  if _h : s = 0 then (r, x) else euclid s (r % s) y (x - (r / s : Nat) * y)
termination_by s
decreasing_by exact Nat.mod_lt _ (Nat.pos_of_ne_zero _h)

/-- The number below `modulus` whose product with `n` leaves one. -/
def inverse? (n modulus : Nat) : Option Nat :=
  let (divisor, factor) := euclid modulus (n % modulus) 0 1
  if divisor = 1 then some (factor % modulus).toNat else none

/-! ## Encoding -/

/-- A key of version zero, with its nine numbers. The last three are read and dropped. -/
def ofDer? (bytes : Bytes) : Option RsaKey := do
  let numbers ← (← (← DerElement.readOne? bytes).sequence?).mapM DerElement.natural?
  let [0, modulus, publicExponent, privateExponent, prime1, prime2, _, _, _] := numbers | none
  let key : RsaKey := { modulus, publicExponent, privateExponent, prime1, prime2 }
  guard key.Valid
  return key

/-- The key with the last three numbers computed. One of them is an inverse, which there may not be.
-/
def toDer? (k : RsaKey) : Option Bytes := do
  let coefficient ← inverse? k.prime2 k.prime1
  let numbers := [0, k.modulus, k.publicExponent, k.privateExponent, k.prime1, k.prime2,
    k.privateExponent % (k.prime1 - 1), k.privateExponent % (k.prime2 - 1), coefficient]
  return (DerElement.sequence (numbers.map .natural)).write

/-- The algorithm that documents of this family name; it has a null for its parameters. -/
def algorithm : AlgorithmId := ⟨KeyDocument.rsaEncryption, some .null⟩

/-- The key in a document, if the algorithm is written in its one form. -/
def ofDocument? (document : KeyDocument) : Option RsaKey := do
  guard (document.algorithm = algorithm)
  ofDer? document.key

/-- The document that holds a key, if it is short enough to be an element. -/
def toDocument? (k : RsaKey) : Option KeyDocument := do
  let document := KeyDocument.of algorithm (← k.toDer?)
  guard (document.der.length < 0x10000000)
  return document

end RsaKey

end CertSync
