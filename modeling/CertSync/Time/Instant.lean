import CertSync.Time.Date

/-!
# Instants

A moment in universal time to the nanosecond. The sixtieth second of any minute may be a leap
second, which is a moment of its own and not the start of the next minute.
-/

namespace CertSync

/-- A date and a time of day in universal time. The seconds go up to sixty. -/
structure Instant where
  date : Date
  hour : Fin 24
  minute : Fin 60
  second : Fin 61
  nanosecond : Fin 1000000000
deriving DecidableEq

namespace Instant

/-- The instant that a clock shows `offset` minutes ahead of universal time. -/
def ofLocal? (date : Date) (hour : Fin 24) (minute : Fin 60) (second : Fin 61)
    (nanosecond : Fin 1000000000) (offset : Int) : Option Instant := do
  let minutes : Int := hour.val * 60 + minute.val - offset
  let date ← date.shift? (minutes / 1440)
  let ofDay := (minutes % 1440).toNat
  return {
    date
    hour := Fin.ofNat 24 (ofDay / 60)
    minute := Fin.ofNat 60 ofDay
    second
    nanosecond }

end Instant

end CertSync
