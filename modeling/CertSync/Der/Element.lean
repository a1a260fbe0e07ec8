import CertSync.Bytes.Basic
import CertSync.Der.ObjectId

/-!
# DER elements

An element is a tag, the length of its contents, and the contents. The encoding is strict: a length
is written in the fewest bytes, so each element has one written form.
-/

namespace CertSync

/-- An element by its tag and its contents, which are read by whoever knows what the tag stands for.
-/
structure DerElement where
  tag : UInt8
  contents : Bytes
deriving DecidableEq

namespace DerElement

/-! ## Tags -/

/-- The universal types that have a tag. -/
def universalTags : List UInt8 :=
  [0x01, 0x02, 0x03, 0x04, 0x05, 0x06, 0x09, 0x0A, 0x0C, 0x12, 0x13, 0x14, 0x15, 0x16, 0x17, 0x18,
   0x1A, 0x1E, 0x30, 0x31]

/-- A tag of one byte. The number thirty-one would announce a longer tag. -/
def isTag (tag : UInt8) : Bool :=
  universalTags.contains tag || (0x40 ≤ tag && tag.toNat % 32 ≠ 31)

/-- The number of a tag that has its meaning from where it stands. -/
def contextNumber? (tag : UInt8) : Option Nat :=
  if 0x80 ≤ tag.toNat ∧ tag.toNat < 0xC0 then some (tag.toNat % 32) else none

def isConstructed (tag : UInt8) : Bool := tag.toNat / 32 % 2 = 1

/-! ## Writing -/

/-- The bytes of a number, most significant first, without leading zeros. -/
def natBytes (n : Nat) : Bytes := if n = 0 then [] else natBytes (n / 256) ++ [n.toUInt8]

/-- A length below 128 is written in one byte; before a longer one stands how many bytes it takes.
-/
def lengthBytes (n : Nat) : Bytes :=
  if n < 128 then [n.toUInt8] else (0x80 + (natBytes n).length).toUInt8 :: natBytes n

def write (e : DerElement) : Bytes := e.tag :: (lengthBytes e.contents.length ++ e.contents)

def writeAll (es : List DerElement) : Bytes := es.flatMap write

/-! ## Reading -/

/-- A length of at most four bytes, written as `lengthBytes` writes it, and what comes after it. -/
def readLength? : Bytes → Option (Nat × Bytes)
  | [] => none
  | b :: rest =>
    if b < 0x80 then some (b.toNat, rest)
    else
      let size := b.toNat - 0x80
      let n := Bytes.toNat (rest.take size)
      if 1 ≤ size ∧ size ≤ 4 ∧ size ≤ rest.length ∧ lengthBytes n = b :: rest.take size then
        some (n, rest.drop size)
      else none

/-- The first element, of less than 2^28 bytes, and what comes after it. -/
def read? : Bytes → Option (DerElement × Bytes)
  | [] => none
  | tag :: rest =>
    if isTag tag then do
      let (n, rest) ← readLength? rest
      guard (n < 0x10000000 ∧ n ≤ rest.length)
      return (⟨tag, rest.take n⟩, rest.drop n)
    else none

/-- All elements, in at most `most` steps. -/
def readUpTo? : Nat → Bytes → Option (List DerElement)
  | _, [] => some []
  | 0, _ => none
  | most + 1, bytes => do
    let (e, rest) ← read? bytes
    return e :: (← readUpTo? most rest)

/-- The elements that make up the bytes; each takes at least two. -/
def readAll? (bytes : Bytes) : Option (List DerElement) := readUpTo? bytes.length bytes

def readOne? (bytes : Bytes) : Option DerElement := do
  let (e, rest) ← read? bytes
  guard rest.isEmpty
  return e

/-! ## Types -/

/-- The contents of an element that has the tag. -/
def contentsOf? (tag : UInt8) (e : DerElement) : Option Bytes :=
  if e.tag = tag then some e.contents else none

def octets? : DerElement → Option Bytes := contentsOf? 0x04

def sequence? (e : DerElement) : Option (List DerElement) := contentsOf? 0x30 e >>= readAll?

def isNull (e : DerElement) : Bool := e.tag = 0x05 && e.contents.isEmpty

def objectId? (e : DerElement) : Option ObjectId := contentsOf? 0x06 e >>= ObjectId.ofBytes?

/-- Contents that write a number which is not negative, in the fewest bytes. -/
def naturalOf? : Bytes → Option Nat
  | [] => none
  | [b] => if b < 0x80 then some b.toNat else none
  | 0 :: b :: rest => if b < 0x80 then none else some (Bytes.toNat (b :: rest))
  | b :: rest => if b < 0x80 then some (Bytes.toNat (b :: rest)) else none

def natural? (e : DerElement) : Option Nat := contentsOf? 0x02 e >>= naturalOf?

def naturalBelow? (bound : Nat) (e : DerElement) : Option Nat := do
  let n ← e.natural?
  guard (n < bound)
  return n

/-- A run of bits that fills its bytes: none of the last one is unused. -/
def wholeBits? : Bytes → Option Bytes
  | 0 :: bytes => some bytes
  | _ => none

def bits? (e : DerElement) : Option Bytes := contentsOf? 0x03 e >>= wholeBits?

/-! ## Making elements -/

def sequence (es : List DerElement) : DerElement := ⟨0x30, writeAll es⟩

def octets (bytes : Bytes) : DerElement := ⟨0x04, bytes⟩

def null : DerElement := ⟨0x05, []⟩

def objectId (id : ObjectId) : DerElement := ⟨0x06, id.bytes⟩

/-- The contents for a number. A zero goes before a first byte that would make it negative. -/
def naturalBytes (n : Nat) : Bytes :=
  match natBytes n with
  | [] => [0]
  | b :: rest => if b < 0x80 then b :: rest else 0 :: b :: rest

def natural (n : Nat) : DerElement := ⟨0x02, naturalBytes n⟩

def bits (bytes : Bytes) : DerElement := ⟨0x03, 0 :: bytes⟩

/-- An element under a context-specific tag of its own. -/
def explicit (number : Nat) (e : DerElement) : DerElement := ⟨(0xA0 + number).toUInt8, e.write⟩

end DerElement

end CertSync
