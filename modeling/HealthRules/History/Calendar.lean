/-!
# Calendar — seconds since 1970 as dates

Time is counted in seconds since the beginning of 1970 in universal time, without leap seconds. A date is
found in the Gregorian calendar, whose years are taken to begin in March here, so that the leap day is the
last day of a year and eras of 400 years all have 146097 days.

* `Date` and `Date.ofDays`, the date of a day counted from 1970-01-01;
* `timestamp`, the text of a moment.
-/

namespace HealthRules.Calendar

structure Date where
  year : Nat
  month : Nat
  day : Nat
  deriving DecidableEq, Repr, Inhabited

/-! ## Days -/

/-- The days from the first of March of the year 0 to the first of January 1970. -/
def epochOffset : Nat := 719468

def daysPerEra : Nat := 146097

/-- The date of a day counted from 1970-01-01. -/
def Date.ofDays (days : Nat) : Date :=
  let z := days + epochOffset
  let era := z / daysPerEra
  let dayOfEra := z - era * daysPerEra
  let yearOfEra := (dayOfEra - dayOfEra / 1460 + dayOfEra / 36524 - dayOfEra / 146096) / 365
  let dayOfYear := dayOfEra - (365 * yearOfEra + yearOfEra / 4 - yearOfEra / 100)
  let marchMonth := (5 * dayOfYear + 2) / 153
  let day := dayOfYear - (153 * marchMonth + 2) / 5 + 1
  let month := if marchMonth < 10 then marchMonth + 3 else marchMonth - 9
  let year := yearOfEra + era * 400
  { year := if month ≤ 2 then year + 1 else year, month, day }

/-! ## Text -/

/-- The decimal digits of `n`, with leading zeros up to `width` digits. -/
def padded (width n : Nat) : List Char :=
  let cs := Nat.toDigits 10 n
  List.replicate (width - cs.length) '0' ++ cs

/-- The text of a moment: date and time of day, in universal time. -/
def timestamp (seconds : Nat) : String :=
  let date := Date.ofDays (seconds / 86400)
  let rest := seconds % 86400
  String.ofList <|
    padded 4 date.year ++ '-' :: padded 2 date.month ++ '-' :: padded 2 date.day ++
      'T' :: padded 2 (rest / 3600) ++ ':' :: padded 2 (rest % 3600 / 60) ++
      ':' :: padded 2 (rest % 60) ++ ['Z']

end HealthRules.Calendar
