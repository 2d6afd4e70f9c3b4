/-
  Points in time, to the nanosecond, in universal time.

  A leap second is the second before midnight with a billion
  nanoseconds more, so it comes after that second and before
  the next.

  Key definitions include:
    * `Instant`
    * `Instant.before`
    * `Instant.ofMillis?`
    * `Calendar.daysOfDate`
    * `Calendar.dateOfDays`
    * `Calendar.isDate`
-/

namespace DeviceHub

------------------------------------------------------------
-- Calendar
------------------------------------------------------------

namespace Calendar

/- A year of 366 days. -/
def isLeapYear
    (year : Int) : Bool :=
  year % 4 == 0 && (year % 100 != 0 || year % 400 == 0)

/- The number of days in a month. -/
def daysInMonth
    (year : Int)
    (month : Nat) : Nat :=
  match month with
  | 2 => if isLeapYear year then 29 else 28
  | 4 | 6 | 9 | 11 => 30
  | _ => 31

/- The years that dates may have. -/
def minYear : Int := -262143

def maxYear : Int := 262142

/- Whether the numbers name a day of the calendar. -/
def isDate
    (year : Int)
    (month day : Nat) : Bool :=
  minYear ≤ year && year ≤ maxYear &&
    1 ≤ month && month ≤ 12 &&
    1 ≤ day && day ≤ daysInMonth year month

/-
  Days from 1 January 1970 to a date.  Years are counted
  from March, so that a leap day comes last.
-/
def daysOfDate
    (year : Int)
    (month day : Nat) : Int :=
  let y := if month ≤ 2 then year - 1 else year
  let era := y.fdiv 400
  let yearOfEra := y - era * 400
  let m : Int := Int.ofNat ((month + 9) % 12)
  let dayOfYear := (153 * m + 2) / 5 + Int.ofNat day - 1
  let dayOfEra :=
    yearOfEra * 365 + yearOfEra / 4 - yearOfEra / 100 +
      dayOfYear
  era * 146097 + dayOfEra - 719468

/- The year, month and day of a count of days since 1970. -/
def dateOfDays
    (days : Int) : Int × Nat × Nat :=
  let z := days + 719468
  let era := z.fdiv 146097
  let dayOfEra := z - era * 146097
  let yearOfEra :=
    (dayOfEra - dayOfEra / 1460 + dayOfEra / 36524 -
      dayOfEra / 146096) / 365
  let dayOfYear :=
    dayOfEra -
      (365 * yearOfEra + yearOfEra / 4 - yearOfEra / 100)
  let m := (5 * dayOfYear + 2) / 153
  let day := dayOfYear - (153 * m + 2) / 5 + 1
  let month := if m < 10 then m + 3 else m - 9
  let year := yearOfEra + era * 400
  (if month ≤ 2 then year + 1 else year,
    month.toNat, day.toNat)

/- The first and the last day of the calendar. -/
def firstDay : Int :=
  daysOfDate minYear 1 1

def lastDay : Int :=
  daysOfDate maxYear 12 31

end Calendar

------------------------------------------------------------
-- Instants
------------------------------------------------------------

/-
  A point in time: seconds since the start of 1970 and the
  nanoseconds on top, a billion or more in a leap second.
-/
structure Instant where
  second : Int
  nano : Nat
  deriving DecidableEq, Inhabited, Repr

namespace Instant

/- Whether the first instant comes strictly earlier. -/
def before
    (a b : Instant) : Bool :=
  a.second < b.second ||
    (a.second == b.second && a.nano < b.nano)

/- Whether the day of an instant is in the calendar. -/
def inCalendar
    (i : Instant) : Bool :=
  let day := i.second.fdiv 86400
  Calendar.firstDay ≤ day && day ≤ Calendar.lastDay

/- The instant a number of milliseconds after 1970. -/
def ofMillis?
    (millis : Int) : Option Instant :=
  let i : Instant :=
    ⟨millis.fdiv 1000, (millis.fmod 1000).toNat * 1000000⟩
  if i.inCalendar then some i else none

/- The milliseconds from 1970 to an instant. -/
def toMillis
    (i : Instant) : Int :=
  i.second * 1000 + Int.ofNat (i.nano / 1000000)

end Instant

end DeviceHub
