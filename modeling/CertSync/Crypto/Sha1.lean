import CertSync.Crypto.Hash

/-!
# SHA-1
-/

namespace CertSync.Crypto.Sha1

/-- The five words that blocks are mixed into. -/
structure State where
  a : UInt32
  b : UInt32
  c : UInt32
  d : UInt32
  e : UInt32

def initial : State := ⟨0x67452301, 0xEFCDAB89, 0x98BADCFE, 0x10325476, 0xC3D2E1F0⟩

def rotl (x : UInt32) (n : UInt32) : UInt32 := (x <<< n) ||| (x >>> (32 - n))

/-- Four bytes as a word, most significant first. -/
def word (bytes : Bytes) : UInt32 := bytes.foldl (fun n b => (n <<< 8) ||| b.toUInt32) 0

/-- The eighty words that a block is stretched to. -/
def schedule (block : Bytes) : Array UInt32 :=
  (List.range 64).foldl
    (fun ws i => ws.push (rotl (ws.getD (i + 13) 0 ^^^ ws.getD (i + 8) 0 ^^^ ws.getD (i + 2) 0 ^^^
      ws.getD i 0) 1))
    ((chunks 4 block).map word).toArray

/-- What a round adds: three of the words put together, in a way that changes every twenty rounds,
and the constant of those rounds. -/
def mix (round : Nat) (b c d : UInt32) : UInt32 :=
  if round < 20 then ((b &&& c) ||| (~~~b &&& d)) + 0x5A827999
  else if round < 40 then (b ^^^ c ^^^ d) + 0x6ED9EBA1
  else if round < 60 then ((b &&& c) ||| (b &&& d) ||| (c &&& d)) + 0x8F1BBCDC
  else (b ^^^ c ^^^ d) + 0xCA62C1D6

def rounds : List UInt32 → Nat → State → State
  | [], _, s => s
  | w :: ws, round, s =>
    rounds ws (round + 1)
      ⟨rotl s.a 5 + mix round s.b s.c s.d + s.e + w, s.a, rotl s.b 30, s.c, s.d⟩

/-- A block is mixed in, and what comes out is added to the state before it. -/
def compress (s : State) (block : Bytes) : State :=
  let t := rounds (schedule block).toList 0 s
  ⟨s.a + t.a, s.b + t.b, s.c + t.c, s.d + t.d, s.e + t.e⟩

def State.bytes (s : State) : Bytes :=
  [s.a, s.b, s.c, s.d, s.e].flatMap fun w => Bytes.ofNat 4 w.toNat

/-- The state after all blocks of the padded message. -/
def digest (message : Bytes) : Bytes :=
  ((chunks 64 (padMessage 64 8 message)).foldl compress initial).bytes

end CertSync.Crypto.Sha1

namespace CertSync.Crypto

def sha1 : HashFunction := ⟨64, 20, Sha1.digest⟩

end CertSync.Crypto
