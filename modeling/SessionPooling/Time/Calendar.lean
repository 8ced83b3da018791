import SessionPooling.Time.Instant

/-! The calendar date of an instant, and its spelling. Dates follow the Gregorian rule in
both directions from 1970, with a year zero before the year one. -/
namespace SessionPooling.Calendar

structure Date where
  year : Int
  month : Nat
  day : Nat
deriving DecidableEq

/-- The date `days` days after the first of January 1970. The count is moved to start on
the first of March of the year zero, so that leap days end the years, and is then split
into spans of 400 years, which all have the same number of days. -/
def dateOfDays (days : Int) : Date :=
  let shifted := days + 719468
  let era := shifted / 146097
  let dayOfEra := (shifted % 146097).toNat
  let yearOfEra := (dayOfEra - dayOfEra / 1460 + dayOfEra / 36524 - dayOfEra / 146096) / 365
  let dayOfYear := dayOfEra - (365 * yearOfEra + yearOfEra / 4 - yearOfEra / 100)
  let shiftedMonth := (5 * dayOfYear + 2) / 153
  let month := if shiftedMonth < 10 then shiftedMonth + 3 else shiftedMonth - 9
  { year := (yearOfEra : Int) + era * 400 + (if month ≤ 2 then 1 else 0)
    month
    day := dayOfYear - (153 * shiftedMonth + 2) / 5 + 1 }

/-- Years of four digits stand alone; the others carry a sign. -/
def yearText (year : Int) : String :=
  if 0 ≤ year ∧ year ≤ 9999 then Text.zeroPadded 4 year.toNat
  else (if year < 0 then "-" else "+") ++ Text.zeroPadded 4 year.natAbs

/-- The part of a second, in the fewest of 0, 3, 6 or 9 digits that are exact. -/
def fractionText (nanos : Nat) : String :=
  if nanos = 0 then ""
  else if nanos % 1000000 = 0 then "." ++ Text.zeroPadded 3 (nanos / 1000000)
  else if nanos % 1000 = 0 then "." ++ Text.zeroPadded 6 (nanos / 1000)
  else "." ++ Text.zeroPadded 9 nanos

def instantText (t : Instant) : String :=
  let date := dateOfDays (t.seconds / 86400)
  let ofDay := (t.seconds % 86400).toNat
  let two := Text.zeroPadded 2
  yearText date.year ++ "-" ++ two date.month ++ "-" ++ two date.day ++ "T" ++
    two (ofDay / 3600) ++ ":" ++ two (ofDay / 60 % 60) ++ ":" ++ two (ofDay % 60) ++
    fractionText t.subsecond ++ "Z"

end SessionPooling.Calendar
