/-
# The proleptic Gregorian calendar

Days are numbered from 1970-01-01. The calendar repeats every 146097 days, which is 400 years;
a year is taken to begin in March, so that the day of February that comes and goes is its last.

| period | days |
| --- | ---: |
| 400 years | 146097 |
| 1 January 1970 | 719468 days after 1 March of the year 0 |
| the first `m` months from March | `(153 m + 2) / 5` |
-/

namespace TokenAuthority
namespace Time

/-- A date by year, month and day of the month. -/
structure Date where
  year : Int
  month : Nat
  day : Nat
deriving DecidableEq, Repr

/-- Whether a year has a 29th of February. -/
def isLeapYear (year : Int) : Bool :=
  year % 4 = 0 && (year % 100 ≠ 0 || year % 400 = 0)

/-- The number of days of a month. -/
def daysInMonth (year : Int) (month : Nat) : Nat :=
  if month = 2 then (if isLeapYear year then 29 else 28)
  else if month = 4 || month = 6 || month = 9 || month = 11 then 30
  else 31

namespace Date

/-- Whether the calendar has this date. -/
def isValid (d : Date) : Bool :=
  1 ≤ d.month && d.month ≤ 12 && 1 ≤ d.day && d.day ≤ daysInMonth d.year d.month

/-- The number of a date's day. -/
def dayNumber (d : Date) : Int :=
  let year := if d.month ≤ 2 then d.year - 1 else d.year
  let month := if 3 ≤ d.month then d.month - 3 else d.month + 9
  let yearOfEra := year % 400
  let dayOfYear : Int := (153 * month + 2) / 5 + d.day - 1
  year / 400 * 146097 + yearOfEra * 365 + yearOfEra / 4 - yearOfEra / 100 + dayOfYear - 719468

/-- The date of the day with a number. -/
def ofDayNumber (n : Int) : Date :=
  let shifted := n + 719468
  let dayOfEra := shifted % 146097
  let yearOfEra := (dayOfEra - dayOfEra / 1460 + dayOfEra / 36524 - dayOfEra / 146096) / 365
  let dayOfYear := dayOfEra - (365 * yearOfEra + yearOfEra / 4 - yearOfEra / 100)
  let month := ((5 * dayOfYear + 2) / 153).toNat
  let day := (dayOfYear - (153 * month + 2) / 5 + 1).toNat
  let year := yearOfEra + shifted / 146097 * 400
  if month < 10 then ⟨year, month + 3, day⟩ else ⟨year + 1, month - 9, day⟩

end Date
end Time
end TokenAuthority
