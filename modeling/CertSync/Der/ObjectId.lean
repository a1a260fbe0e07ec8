import CertSync.Bytes.Basic

/-!
# Object identifiers

An identifier is kept as the bytes that encode it. Reading accepts between three and thirty-nine
bytes, a first byte that splits into two arcs, and further arcs below 2^32.
-/

namespace CertSync

/-- An identifier by its bytes. -/
structure ObjectId where
  bytes : Bytes
deriving DecidableEq

namespace ObjectId

/-- The arcs after the first two: seven bits a byte, the last byte of each without its top bit. -/
def restArcs? (value seen : Nat) : Bytes → Option (List Nat)
  | [] => if seen = 0 then some [] else none
  | b :: rest =>
    if 4 ≤ seen ∧ 0x10 ≤ b.toNat then none
    else
      let value := value * 128 + b.toNat % 128
      if b.toNat < 128 then (restArcs? 0 0 rest).map (value :: ·)
      else restArcs? value (seen + 1) rest

/-- All arcs. The first byte holds two of them. -/
def arcs? : Bytes → Option (List Nat)
  | [] => none
  | b :: rest =>
    if b.toNat < 120 then (restArcs? 0 0 rest).map ([b.toNat / 40, b.toNat % 40] ++ ·) else none

/-- The identifier that the bytes are, if they are one within the limits. -/
def ofBytes? (bytes : Bytes) : Option ObjectId :=
  if 3 ≤ bytes.length ∧ bytes.length ≤ 39 ∧ (arcs? bytes).isSome then some ⟨bytes⟩ else none

/-- The arcs with points between them. -/
def toText (id : ObjectId) : String :=
  ".".intercalate (((arcs? id.bytes).getD []).map toString)

end ObjectId

end CertSync
