/-!
# Decimal numbers in settings

Digits with at most one plus sign before them. A number that does not fit is no number.
-/

namespace CertSync.Text

def digitsValue (ds : List Char) : Nat := ds.foldl (fun n c => n * 10 + (c.toNat - 48)) 0

/-- The number in a text, if it is below the bound. No blanks may stand around it. -/
def unsignedBelow? (bound : Nat) (s : String) : Option Nat := do
  let digits := match s.toList with
    | '+' :: rest => rest
    | cs => cs
  guard (!digits.isEmpty && digits.all Char.isDigit)
  let n := digitsValue digits
  guard (n < bound)
  return n

end CertSync.Text
