/-!
# Proleptic Gregorian calendar

Dates are proleptic Gregorian, with a year zero and negative years, from year `-262143` to
year `262142`. `daysFromCivil` counts days from 1970-01-01 by the era arithmetic of 400-year
cycles: an era has 146097 days, and shifting the year to start in March puts the leap day
last, so that the day of the year is a linear function of the shifted month.

A time of day may have second 60, a leap second: it counts as the second after 59, so that
23:59:60 of a day falls on 00:00:00 of the next.
-/

namespace RuleMachine

namespace Calendar

/-- The first representable year. -/
def minYear : Int := -262143

/-- The last representable year. -/
def maxYear : Int := 262142

/-- Whether a year is a leap year. -/
def isLeap (year : Int) : Bool :=
  (year % 4 == 0 && year % 100 != 0) || year % 400 == 0

/-- The number of days in a month (1 to 12) of a year. -/
def monthLength (year : Int) (month : Nat) : Nat :=
  match month with
  | 2 => if isLeap year then 29 else 28
  | 4 | 6 | 9 | 11 => 30
  | _ => 31

/-- Whether a year, month and day name a day of the calendar. -/
def isDate (year : Int) (month day : Nat) : Bool :=
  minYear ≤ year && year ≤ maxYear && 1 ≤ month && month ≤ 12 && 1 ≤ day &&
    day ≤ monthLength year month

/-- Days from 1970-01-01 to a date. -/
def daysFromCivil (year : Int) (month day : Nat) : Int :=
  let y : Int := if month ≤ 2 then year - 1 else year
  let era := y / 400
  let yearOfEra := y - era * 400
  let shiftedMonth : Int := if month > 2 then (month : Int) - 3 else (month : Int) + 9
  let dayOfYear := (153 * shiftedMonth + 2) / 5 + (day : Int) - 1
  let dayOfEra := yearOfEra * 365 + yearOfEra / 4 - yearOfEra / 100 + dayOfYear
  era * 146097 + dayOfEra - 719468

/-- A date and a time of day, as read from text. -/
structure Moment where
  year : Int
  month : Nat
  day : Nat
  hour : Nat := 0
  minute : Nat := 0
  /-- The second, 60 for a leap second. -/
  second : Nat := 0
  nanosecond : Nat := 0
  deriving Repr, DecidableEq

namespace Moment

/-- Whether the fields name a day and a time of day. -/
def isValid (t : Moment) : Bool :=
  isDate t.year t.month t.day && t.hour ≤ 23 && t.minute ≤ 59 && t.second ≤ 60 &&
    t.nanosecond < 1000000000

/-- Whole milliseconds from the epoch to the moment read at a zone `offset` seconds east of
universal time. -/
def epochMillis (t : Moment) (offset : Int) : Int :=
  let seconds := daysFromCivil t.year t.month t.day * 86400 + (t.hour : Int) * 3600 +
    (t.minute : Int) * 60 + (t.second : Int) - offset
  seconds * 1000 + ((t.nanosecond / 1000000 : Nat) : Int)

end Moment

end Calendar

end RuleMachine
