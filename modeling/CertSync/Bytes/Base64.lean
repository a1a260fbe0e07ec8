import CertSync.Bytes.Basic

/-!
# Base64

The standard alphabet with padding. Reading is strict: the text has whole groups of four, padding
stands at the end only, and the bits that padding leaves unused are zero, so every byte string has
one written form.
-/

namespace CertSync.Base64

/-- The character for six bits. -/
def digit (n : Nat) : Char :=
  if n < 26 then Char.ofNat (n + 65)
  else if n < 52 then Char.ofNat (n + 71)
  else if n < 62 then Char.ofNat (n - 4)
  else if n = 62 then '+' else '/'

def value? (c : Char) : Option Nat :=
  let n := c.toNat
  if 65 ≤ n && n ≤ 90 then some (n - 65)
  else if 97 ≤ n && n ≤ 122 then some (n - 71)
  else if 48 ≤ n && n ≤ 57 then some (n + 4)
  else if c = '+' then some 62
  else if c = '/' then some 63
  else none

/-- Three bytes at a time. One or two that are left over are padded. -/
def encode : Bytes → List Char
  | [] => []
  | [a] => [digit (a.toNat / 4), digit (a.toNat % 4 * 16), '=', '=']
  | [a, b] =>
    [digit (a.toNat / 4), digit (a.toNat % 4 * 16 + b.toNat / 16), digit (b.toNat % 16 * 4), '=']
  | a :: b :: c :: rest =>
    digit (a.toNat / 4) :: digit (a.toNat % 4 * 16 + b.toNat / 16) ::
      digit (b.toNat % 16 * 4 + c.toNat / 64) :: digit (c.toNat % 64) :: encode rest

/-- Three bytes from four characters, none of which is padding. -/
def decodeGroup (w x y z : Char) : Option Bytes := do
  let w ← value? w
  let x ← value? x
  let y ← value? y
  let z ← value? z
  return [(w * 4 + x / 16).toUInt8, (x % 16 * 16 + y / 4).toUInt8, (y % 4 * 64 + z).toUInt8]

/-- The last group, which alone may end in one or two padding characters. -/
def decodeLast (w x y z : Char) : Option Bytes :=
  if z = '=' then do
    let w ← value? w
    let x ← value? x
    if y = '=' then
      guard (x % 16 = 0)
      return [(w * 4 + x / 16).toUInt8]
    else
      let y ← value? y
      guard (y % 4 = 0)
      return [(w * 4 + x / 16).toUInt8, (x % 16 * 16 + y / 4).toUInt8]
  else decodeGroup w x y z

/-- Four characters at a time, the last four with or without padding. -/
def decode? : List Char → Option Bytes
  | [] => some []
  | [w, x, y, z] => decodeLast w x y z
  | w :: x :: y :: z :: rest => do return (← decodeGroup w x y z) ++ (← decode? rest)
  | _ => none

end CertSync.Base64
