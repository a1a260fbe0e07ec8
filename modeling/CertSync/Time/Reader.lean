import CertSync.Text.Blank
import CertSync.Text.Decimal
import CertSync.Time.Instant

/-!
# Reading instants

RFC 3339, read leniently: blanks may stand before each number and around the offset, numbers may
be short, the date and the time may be parted by a blank, and the offset may be called `UTC`. What
is read must still name a date and a time that exist.
-/

namespace CertSync.Instant

/-- A reader takes what it knows from the front of a text. -/
abbrev Scan := StateT (List Char) Option

namespace Scan

open Text (digitsValue)

def blanks : Scan Unit := modify Text.trimStart

def peek? : Scan (Option Char) := return (← get).head?

def skip : Scan Unit := modify List.tail

def oneOf (cs : List Char) : Scan Unit := do
  match ← get with
  | c :: rest => if cs.contains c then set rest else failure
  | [] => failure

/-- One or more digits, and no more than `most` of them. -/
def digits (most : Nat) : Scan (List Char) := do
  let cs ← get
  let ds := (cs.take most).takeWhile Char.isDigit
  guard !ds.isEmpty
  set (cs.drop ds.length)
  return ds

def number (most : Nat) : Scan Nat := do
  blanks
  return digitsValue (← digits most)

/-- A sign allows any number of digits; without one there are four at most. -/
def year : Scan Int := do
  blanks
  match ← peek? with
  | some '-' => skip; return -(digitsValue (← digits (← get).length) : Int)
  | some '+' => skip; return digitsValue (← digits (← get).length)
  | _ => return digitsValue (← digits 4)

def mark (c : Char) : Scan Unit := do
  blanks
  oneOf [c]

/-- Digits after a point, if there is one. The first nine count. -/
def fraction : Scan Nat := do
  if (← peek?) = some '.' then
    skip
    let ds ← digits 9
    modify (List.dropWhile Char.isDigit)
    return digitsValue (ds ++ List.replicate (9 - ds.length) '0')
  else return 0

/-- A number of two digits exactly. -/
def twoDigits : Scan Nat := do
  let ds ← digits 2
  guard (ds.length = 2)
  return digitsValue ds

/-- Take the name of universal time, in any case, and say whether it was there. -/
def utc : Scan Bool := do
  let cs ← get
  if (cs.take 3).map Char.toUpper = ['U', 'T', 'C'] then
    set (cs.drop 3)
    return true
  else return false

/-- Hours and minutes, parted by nothing or by any colons and blanks. -/
def clock : Scan Nat := do
  let hours ← twoDigits
  modify (List.dropWhile fun c => c = ':' || Text.isBlank c)
  let minutes ← twoDigits
  guard (hours ≤ 23 ∧ minutes ≤ 59)
  return hours * 60 + minutes

/-- The minutes that a clock is ahead of universal time. The minus sign may be the typographic one.
-/
def offset : Scan Int := do
  blanks
  if ← utc then return 0
  match ← peek? with
  | some 'Z' => skip; return 0
  | some 'z' => skip; return 0
  | some '+' => skip; return ← clock
  | some '-' => skip; return -(← clock : Nat)
  | some '−' => skip; return -(← clock : Nat)
  | _ => failure

def date : Scan Date := do
  let y ← year
  mark '-'
  let m ← number 2
  mark '-'
  let d ← number 2
  Date.of? y m d

def below (bound n : Nat) : Scan (Fin bound) :=
  if h : n < bound then return ⟨n, h⟩ else failure

/-- A date, a time of day and an offset; the moment is moved to universal time. -/
def instant : Scan Instant := do
  let d ← date
  oneOf ['T', 't', ' ']
  let h ← below 24 (← number 2)
  mark ':'
  let m ← below 60 (← number 2)
  mark ':'
  let s ← below 61 (← number 2)
  let n ← below 1000000000 (← fraction)
  let o ← offset
  blanks
  Instant.ofLocal? d h m s n o

end Scan

def ofText? (s : String) : Option Instant := do
  let (t, rest) ← Scan.instant.run s.toList
  guard rest.isEmpty
  return t

end CertSync.Instant
