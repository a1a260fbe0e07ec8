/-!
# Key algorithms

The algorithm that a certificate is requested with, and the family of keys that it makes.
-/

namespace CertSync

/-- The curves that a key may be on. -/
inductive Curve where
  | p256
  | p384
  | p521
deriving DecidableEq

/-- What a key is, up to its size where it is no curve. -/
inductive KeyFamily where
  | rsa
  | elliptic (curve : Curve)
deriving DecidableEq

inductive KeyAlgorithm where
  | rsa1024
  | rsa2048
  | rsa3072
  | rsa4096
  | ecPrime256v1
  | ecSecp384r1
  | ecSecp521r1
deriving DecidableEq

namespace KeyAlgorithm

def all : List KeyAlgorithm :=
  [rsa1024, rsa2048, rsa3072, rsa4096, ecPrime256v1, ecSecp384r1, ecSecp521r1]

/-- The text for an algorithm in a resource and at the service. -/
def label : KeyAlgorithm → String
  | rsa1024 => "RSA_1024"
  | rsa2048 => "RSA_2048"
  | rsa3072 => "RSA_3072"
  | rsa4096 => "RSA_4096"
  | ecPrime256v1 => "EC_prime256v1"
  | ecSecp384r1 => "EC_secp384r1"
  | ecSecp521r1 => "EC_secp521r1"

/-- Labels count letter by letter, and no other text is one. -/
def ofLabel? (s : String) : Option KeyAlgorithm := all.find? fun a => a.label = s

/-- The family that a key of the algorithm is of. -/
def family : KeyAlgorithm → KeyFamily
  | rsa1024 | rsa2048 | rsa3072 | rsa4096 => .rsa
  | ecPrime256v1 => .elliptic .p256
  | ecSecp384r1 => .elliptic .p384
  | ecSecp521r1 => .elliptic .p521

end KeyAlgorithm

end CertSync
