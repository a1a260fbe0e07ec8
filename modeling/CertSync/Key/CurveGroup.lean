import CertSync.Bytes.Basic

/-!
# Groups of elliptic curves

The points of a curve y² = x³ - 3x + b over a prime field, in projective coordinates, where one
formula adds any two points.
-/

namespace CertSync

/-- A curve with a base point of the given order. `size` is how many bytes a coordinate has. -/
structure CurveGroup where
  field : Nat
  b : Nat
  baseX : Nat
  baseY : Nat
  order : Nat
  size : Nat

namespace CurveGroup

/-- The group secp256r1. -/
def p256 : CurveGroup where
  field := 0xFFFFFFFF00000001000000000000000000000000FFFFFFFFFFFFFFFFFFFFFFFF
  b := 0x5AC635D8AA3A93E7B3EBBD55769886BC651D06B0CC53B0F63BCE3C3E27D2604B
  baseX := 0x6B17D1F2E12C4247F8BCE6E563A440F277037D812DEB33A0F4A13945D898C296
  baseY := 0x4FE342E2FE1A7F9B8EE7EB4A7C0F9E162BCE33576B315ECECBB6406837BF51F5
  order := 0xFFFFFFFF00000000FFFFFFFFFFFFFFFFBCE6FAADA7179E84F3B9CAC2FC632551
  size := 32

/-- The group secp384r1. -/
def p384 : CurveGroup where
  field := 0xFFFFFFFFFFFFFFFFFFFFFFFFFFFFFFFFFFFFFFFFFFFFFFFFFFFFFFFFFFFFFFFEFFFFFFFF0000000000000000FFFFFFFF
  b := 0xB3312FA7E23EE7E4988E056BE3F82D19181D9C6EFE8141120314088F5013875AC656398D8A2ED19D2A85C8EDD3EC2AEF
  baseX := 0xAA87CA22BE8B05378EB1C71EF320AD746E1D3B628BA79B9859F741E082542A385502F25DBF55296C3A545E3872760AB7
  baseY := 0x3617DE4A96262C6F5D9E98BF9292DC29F8F41DBD289A147CE9DA3113B5F0B8C00A60B1CE1D7E819D7A431D7C90EA0E5F
  order := 0xFFFFFFFFFFFFFFFFFFFFFFFFFFFFFFFFFFFFFFFFFFFFFFFFC7634D81F4372DDF581A0DB248B0A77AECEC196ACCC52973
  size := 48

/-- A point; the one at infinity has `z` zero. -/
structure Point where
  x : Int
  y : Int
  z : Int

def infinity : Point := ⟨0, 1, 0⟩

def base (g : CurveGroup) : Point := ⟨g.baseX, g.baseY, 1⟩

/-- The sum of two points, equal, opposite or neutral ones included. -/
def add (g : CurveGroup) (p q : Point) : Point :=
  let m : Int := g.field
  let b3 : Int := 3 * g.b
  let xx := p.x * q.x % m
  let yy := p.y * q.y % m
  let zz := p.z * q.z % m
  let xy := (p.x * q.y + q.x * p.y) % m
  let xz := (p.x * q.z + q.x * p.z) % m
  let yz := (p.y * q.z + q.y * p.z) % m
  let sum := (yy - 3 * xz + b3 * zz) % m
  let difference := (yy + 3 * xz - b3 * zz) % m
  let slope := 3 * (xx - zz) % m
  let rest := (b3 * xz - 3 * xx - 9 * zz) % m
  ⟨(xy * difference - yz * rest) % m, (sum * difference + slope * rest) % m,
    (yz * sum + xy * slope) % m⟩

/-- The sum of `n` times a point, by doubling. -/
def multiple (g : CurveGroup) (n : Nat) (p : Point) : Point :=
  if _h : n = 0 then infinity
  else
    let rest := multiple g (n / 2) (g.add p p)
    if n % 2 = 1 then g.add rest p else rest
termination_by n
decreasing_by omega

/-- A power in the field, by squaring. -/
def power (g : CurveGroup) (a : Int) (n : Nat) : Int :=
  if _h : n = 0 then 1
  else
    let rest := power g (a * a % g.field) (n / 2)
    if n % 2 = 1 then rest * a % g.field else rest
termination_by n
decreasing_by omega

/-- The two coordinates of a point that is not the neutral one. -/
def plane (g : CurveGroup) (p : Point) : Nat × Nat :=
  let inverse := g.power p.z (g.field - 2)
  ((p.x * inverse % g.field).toNat, (p.y * inverse % g.field).toNat)

def publicPoint (g : CurveGroup) (n : Nat) : Nat × Nat := g.plane (g.multiple n g.base)

/-- Both coordinates of a point, with all their bytes. -/
def wholeBytes (g : CurveGroup) (point : Nat × Nat) : Bytes :=
  0x04 :: (Bytes.ofNat g.size point.1 ++ Bytes.ofNat g.size point.2)

/-- The first coordinate and the parity of the second, which settle the point. -/
def halfBytes (g : CurveGroup) (point : Nat × Nat) : Bytes :=
  (if point.2 % 2 = 0 then 0x02 else 0x03) :: Bytes.ofNat g.size point.1

end CurveGroup

end CertSync
