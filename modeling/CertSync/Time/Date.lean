/-!
# Dates

Days of the proleptic Gregorian calendar, with the years that a timestamp can hold. A `Date` exists
by construction; stepping past the last year gives none.
-/

namespace CertSync

namespace Date

def minYear : Int := -262143

def maxYear : Int := 262142

def isLeap (year : Int) : Bool := year % 4 = 0 && (year % 100 ≠ 0 || year % 400 = 0)

def daysIn (year : Int) (month : Nat) : Nat :=
  if month = 2 then if isLeap year then 29 else 28
  else if month = 4 ∨ month = 6 ∨ month = 9 ∨ month = 11 then 30
  else 31

/-- The numbers name a day that there is, of a year that can be held. -/
def Exists (year : Int) (month day : Nat) : Prop :=
  (minYear ≤ year ∧ year ≤ maxYear) ∧ (1 ≤ month ∧ month ≤ 12) ∧
    (1 ≤ day ∧ day ≤ daysIn year month)

instance (year : Int) (month day : Nat) : Decidable (Exists year month day) := by
  unfold Exists; infer_instance

end Date

/-- A day that there is. -/
structure Date where
  year : Int
  month : Nat
  day : Nat
  valid : Date.Exists year month day
deriving DecidableEq

namespace Date

def of? (year : Int) (month day : Nat) : Option Date :=
  if h : Exists year month day then some ⟨year, month, day, h⟩ else none

/-- The day after, unless it falls in a year that cannot be held. -/
def next? (d : Date) : Option Date :=
  if d.day < daysIn d.year d.month then of? d.year d.month (d.day + 1)
  else if d.month < 12 then of? d.year (d.month + 1) 1
  else of? (d.year + 1) 1 1

/-- The day before, unless it falls in a year that cannot be held. -/
def previous? (d : Date) : Option Date :=
  if 1 < d.day then of? d.year d.month (d.day - 1)
  else if 1 < d.month then of? d.year (d.month - 1) (daysIn d.year (d.month - 1))
  else of? (d.year - 1) 12 31

/-- The date as many days away as an offset from universal time can shift it. -/
def shift? (d : Date) (days : Int) : Option Date :=
  if days = 0 then some d
  else if days = 1 then d.next?
  else if days = -1 then d.previous?
  else none

theorem of?_self (d : Date) : of? d.year d.month d.day = some d := by
  simp [of?, d.valid]

end Date

end CertSync
