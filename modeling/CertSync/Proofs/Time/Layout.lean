import CertSync.Proofs.Time.RoundTrip

/-!
# How an instant is laid out

A written instant is a date and a time in fields of fixed width, followed by the offset. Only the
year and the fraction vary: a year that four digits cannot hold has a sign and more of them, and a
fraction has as many groups of three digits as it takes.
-/

namespace CertSync.Instant

/-- The number in decimal, in this many digits. -/
structure IsNumeral (width n : Nat) (text : List Char) : Prop where
  length : text.length = width
  digits : ∀ c ∈ text, c.isDigit = true
  value : Text.digitsValue text = n

inductive IsYear : Int → List Char → Prop
  | plain {n : Nat} {ds : List Char} (h : IsNumeral 4 n ds) : IsYear n ds
  | before {n width : Nat} {ds : List Char} (hn : 0 < n) (hwidth : 4 ≤ width)
      (h : IsNumeral width n ds) : IsYear (-n) ('-' :: ds)
  | beyond {n width : Nat} {ds : List Char} (hn : 9999 < n) (h : IsNumeral width n ds) :
      IsYear n ('+' :: ds)

/-- A fraction of a second, given in nanoseconds. It does not end in three zeros. -/
inductive IsFraction : Nat → List Char → Prop
  | none : IsFraction 0 []
  | groups {n width : Nat} {ds : List Char} (hwidth : width = 3 ∨ width = 6 ∨ width = 9)
      (hn : n % 1000 ≠ 0) (h : IsNumeral width n ds) :
      IsFraction (n * 10 ^ (9 - width)) ('.' :: ds)

/-- The layout of RFC 3339, in universal time. -/
inductive IsRfc3339 (t : Instant) : String → Prop
  | text {year month day hour minute second fraction : List Char}
      (hyear : IsYear t.date.year year) (hmonth : IsNumeral 2 t.date.month month)
      (hday : IsNumeral 2 t.date.day day) (hhour : IsNumeral 2 t.hour hour)
      (hminute : IsNumeral 2 t.minute minute) (hsecond : IsNumeral 2 t.second second)
      (hfraction : IsFraction t.nanosecond fraction) :
      IsRfc3339 t (String.ofList (year ++ '-' :: month ++ '-' :: day ++ 'T' :: hour ++
        ':' :: minute ++ ':' :: second ++ fraction ++ ['+', '0', '0', ':', '0', '0']))

/-! ## What is printed -/

end CertSync.Instant
