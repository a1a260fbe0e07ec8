import CertSync.Time.Instant

/-!
# Writing instants

RFC 3339 in universal time. A fraction has three, six or nine digits, the fewest that lose nothing,
and none if it is zero. A year that four digits cannot hold carries its sign.
-/

namespace CertSync.Instant

/-- A number in decimal, with zeros before it up to a width. -/
def padded (width n : Nat) : List Char :=
  let digits := Nat.toDigits 10 n
  List.replicate (width - digits.length) '0' ++ digits

def printYear (year : Int) : List Char :=
  if 0 ≤ year ∧ year ≤ 9999 then padded 4 year.toNat
  else (if year < 0 then '-' else '+') :: padded 4 year.natAbs

def printDate (d : Date) : List Char :=
  printYear d.year ++ '-' :: (padded 2 d.month ++ '-' :: padded 2 d.day)

def printFraction (nanos : Nat) : List Char :=
  if nanos = 0 then []
  else if nanos % 1000000 = 0 then '.' :: padded 3 (nanos / 1000000)
  else if nanos % 1000 = 0 then '.' :: padded 6 (nanos / 1000)
  else '.' :: padded 9 nanos

def printTime (t : Instant) : List Char :=
  padded 2 t.hour ++ ':' :: (padded 2 t.minute ++ ':' ::
    (padded 2 t.second ++ printFraction t.nanosecond))

/-- The date and the time, parted by a `T` and without an offset. -/
def print (t : Instant) : List Char := printDate t.date ++ 'T' :: printTime t

/-- The text that resources carry, which ends in `Z`. -/
def toText (t : Instant) : String := String.ofList (t.print ++ ['Z'])

/-- The text that differences carry, which spells the offset out. -/
def toOffsetText (t : Instant) : String :=
  String.ofList (t.print ++ ['+', '0', '0', ':', '0', '0'])

end CertSync.Instant
