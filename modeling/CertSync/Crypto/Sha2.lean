import CertSync.Crypto.Hash

/-!
# SHA-2

One algorithm over words of 32 or 64 bits. Its constants are the first bits of the fractional
parts of roots of the first primes, and are computed here from that.
-/

namespace CertSync.Crypto.Sha2

/-! ## Constants -/

/-- The first eighty primes. -/
def primes : List Nat :=
  (List.range 410).filter fun n => 2 ≤ n ∧ (List.range n).all fun d => d < 2 || n % d ≠ 0

/-- The greatest number of `bits` bits whose power does not exceed `n`. -/
def floorRoot (power bits n : Nat) : Nat :=
  (List.range bits).foldr
    (fun i r => if Nat.pow (r + 1 <<< i) power ≤ n then r + 1 <<< i else r) 0

/-- The first 64 bits after the point of a root of `n`. -/
def rootFraction (power n : Nat) : Nat := floorRoot power 70 (n <<< (64 * power)) % UInt64.size

/-- The fractions of the cube roots, from which the constants of the rounds are taken. -/
def cubeRoots : List Nat := primes.map (rootFraction 3)

/-- The fractions of the square roots, from which the first states are taken. -/
def squareRoots : List Nat := (primes.take 16).map (rootFraction 2)

/-! ## Words -/

/-- What the two word sizes differ in. -/
class Word (W : Type) extends Add W, XorOp W, AndOp W, Complement W where
  size : Nat
  ofNat : Nat → W
  toNat : W → Nat
  big0 : W → W
  big1 : W → W
  small0 : W → W
  small1 : W → W
  constants : List W

@[inline] def rotr32 (x n : UInt32) : UInt32 := (x >>> n) ||| (x <<< (32 - n))

@[inline] def rotr64 (x n : UInt64) : UInt64 := (x >>> n) ||| (x <<< (64 - n))

instance : Word UInt32 where
  size := 4
  ofNat := UInt32.ofNat
  toNat := UInt32.toNat
  big0 x := rotr32 x 2 ^^^ rotr32 x 13 ^^^ rotr32 x 22
  big1 x := rotr32 x 6 ^^^ rotr32 x 11 ^^^ rotr32 x 25
  small0 x := rotr32 x 7 ^^^ rotr32 x 18 ^^^ (x >>> 3)
  small1 x := rotr32 x 17 ^^^ rotr32 x 19 ^^^ (x >>> 10)
  constants := (cubeRoots.take 64).map fun n => UInt32.ofNat (n / UInt32.size)

instance : Word UInt64 where
  size := 8
  ofNat := UInt64.ofNat
  toNat := UInt64.toNat
  big0 x := rotr64 x 28 ^^^ rotr64 x 34 ^^^ rotr64 x 39
  big1 x := rotr64 x 14 ^^^ rotr64 x 18 ^^^ rotr64 x 41
  small0 x := rotr64 x 1 ^^^ rotr64 x 8 ^^^ (x >>> 7)
  small1 x := rotr64 x 19 ^^^ rotr64 x 61 ^^^ (x >>> 6)
  constants := cubeRoots.map UInt64.ofNat

section

variable {W : Type} [Word W]

/-- The bits of `y` where those of `x` are set, and the bits of `z` elsewhere. -/
@[inline] def choose (x y z : W) : W := (x &&& y) ^^^ (~~~x &&& z)

/-- Each bit as most of the three have it. -/
@[inline] def majority (x y z : W) : W := (x &&& y) ^^^ (x &&& z) ^^^ (y &&& z)

/-- The eight words that blocks are mixed into. -/
structure State (W : Type) where
  a : W
  b : W
  c : W
  d : W
  e : W
  f : W
  g : W
  h : W

@[specialize] def word (bytes : Bytes) : W := Word.ofNat (Bytes.toNat bytes)

/-- The words that a block is stretched to, one for each round. -/
@[specialize] def schedule (block : Bytes) : Array W :=
  let first : Array W := ((chunks (Word.size W) block).map word).toArray
  let zero : W := Word.ofNat 0
  (List.range ((Word.constants (W := W)).length - 16)).foldl
    (fun ws i => ws.push (Word.small1 (ws.getD (i + 14) zero) + ws.getD (i + 9) zero +
      Word.small0 (ws.getD (i + 1) zero) + ws.getD i zero))
    first

/-- One round for each constant, with the word that goes with it. -/
@[specialize] def rounds : List W → List W → W → W → W → W → W → W → W → W → State W
  | k :: ks, w :: ws, a, b, c, d, e, f, g, h =>
    let t := h + Word.big1 e + choose e f g + k + w
    rounds ks ws (t + Word.big0 a + majority a b c) a b c (d + t) e f g
  | _, _, a, b, c, d, e, f, g, h => ⟨a, b, c, d, e, f, g, h⟩

/-- A block is mixed in, and what comes out is added to the state before it. -/
@[specialize] def compress (s : State W) (block : Bytes) : State W :=
  let t := rounds Word.constants (schedule block).toList s.a s.b s.c s.d s.e s.f s.g s.h
  ⟨s.a + t.a, s.b + t.b, s.c + t.c, s.d + t.d, s.e + t.e, s.f + t.f, s.g + t.g, s.h + t.h⟩

/-- A state is given by numbers, each cut to the size of a word. -/
def State.ofList (words : List Nat) : State W :=
  let nth (i : Nat) : W := Word.ofNat (words.getD i 0)
  ⟨nth 0, nth 1, nth 2, nth 3, nth 4, nth 5, nth 6, nth 7⟩

def State.bytes (s : State W) : Bytes :=
  [s.a, s.b, s.c, s.d, s.e, s.f, s.g, s.h].flatMap fun w =>
    Bytes.ofNat (Word.size W) (Word.toNat w)

/-- The state after all blocks of the padded message. -/
@[specialize] def digest (initial : State W) (message : Bytes) : Bytes :=
  let block := 16 * Word.size W
  ((chunks block (padMessage block (2 * Word.size W) message)).foldl compress initial).bytes

end

/-! ## Where the states start -/

def initial256 : State UInt32 := .ofList ((squareRoots.take 8).map (· / UInt32.size))

def initial224 : State UInt32 := .ofList ((squareRoots.drop 8).map (· % UInt32.size))

def initial512 : State UInt64 := .ofList (squareRoots.take 8)

def initial384 : State UInt64 := .ofList (squareRoots.drop 8)

def digest256 (message : Bytes) : Bytes := digest initial256 message

/-- The other start of the 32-bit digest, without its last word. -/
def digest224 (message : Bytes) : Bytes := (digest initial224 message).take 28

def digest512 (message : Bytes) : Bytes := digest initial512 message

/-- The other start of the 64-bit digest, without its last two words. -/
def digest384 (message : Bytes) : Bytes := (digest initial384 message).take 48

end CertSync.Crypto.Sha2

namespace CertSync.Crypto

def sha224 : HashFunction := ⟨64, 28, Sha2.digest224⟩

def sha256 : HashFunction := ⟨64, 32, Sha2.digest256⟩

def sha384 : HashFunction := ⟨128, 48, Sha2.digest384⟩

def sha512 : HashFunction := ⟨128, 64, Sha2.digest512⟩

end CertSync.Crypto
