/-!
# The Calendar

The date and the time of day of a second in local time. Seconds are counted from the beginning of
1970 in universal time, and local time is so many seconds ahead of that. The date of a day is found
by arithmetic on eras of 400 years, each of which has 146097 days, with years that begin in March so
that a leap day is the last day of its year. Years before the first one count down through zero.

## Main definitions

* `LocalTime`: how far local time is ahead of universal time, and its name.
* `civilDate`: year, month and day of a day.
* `Moment` and `Moment.ofSeconds`: date and time of day of a second.
* `Moment.weekOfYear` and `Moment.isoWeek`: the week of the year.

## Main results

* `Moment.second_lt_sixty`, `Moment.minute_lt_sixty`, `Moment.hour_lt`: the parts of a time of day.
-/

namespace SqlBind.Log

/-- Local time: how many seconds it is ahead of universal time, and its name. -/
structure LocalTime where
  offset : Int
  name : String
  deriving DecidableEq, Repr

/-- Universal time. -/
def LocalTime.universal : LocalTime := ⟨0, "GMT"⟩

/-- The year, month and day of a day counted from the beginning of 1970. -/
def civilDate (days : Int) : Int × Nat × Nat :=
  let shifted := days + 719468
  let era := shifted / 146097
  let dayOfEra := (shifted % 146097).toNat
  let yearOfEra := (dayOfEra - dayOfEra / 1460 + dayOfEra / 36524 - dayOfEra / 146096) / 365
  let dayOfYear := dayOfEra - (365 * yearOfEra + yearOfEra / 4 - yearOfEra / 100)
  let fromMarch := (5 * dayOfYear + 2) / 153
  let day := dayOfYear - (153 * fromMarch + 2) / 5 + 1
  let month := if fromMarch < 10 then fromMarch + 3 else fromMarch - 9
  (era * 400 + yearOfEra + (if month ≤ 2 then 1 else 0), month, day)

/-- Whether a year has a leap day. -/
def isLeapYear (year : Int) : Bool := year % 4 = 0 && (year % 100 != 0 || year % 400 = 0)

/-- The number of days of a year before a month. -/
def daysBeforeMonth (leap : Bool) (month : Nat) : Nat :=
  let lengths := [31, if leap then 29 else 28, 31, 30, 31, 30, 31, 31, 30, 31, 30, 31]
  (lengths.take (month - 1)).foldl (· + ·) 0

/-- Date and time of day in some local time, and the second that they name. Days of the week count
from Sunday, days of the year from zero. -/
structure Moment where
  count : Int
  zone : LocalTime
  year : Int
  month : Nat
  day : Nat
  hour : Nat
  minute : Nat
  second : Nat
  weekday : Nat
  yearday : Nat
  deriving DecidableEq, Repr

def dayNames : List String :=
  ["Sunday", "Monday", "Tuesday", "Wednesday", "Thursday", "Friday", "Saturday"]

def monthNames : List String :=
  ["January", "February", "March", "April", "May", "June", "July", "August", "September",
    "October", "November", "December"]

namespace Moment

/-- The moment so many seconds after the beginning of 1970, in local time. -/
def ofSeconds (zone : LocalTime) (seconds : Int) : Moment :=
  let days := (seconds + zone.offset) / 86400
  let ofDay := ((seconds + zone.offset) % 86400).toNat
  let (year, month, day) := civilDate days
  { count := seconds
    zone, year, month, day
    hour := ofDay / 3600
    minute := ofDay / 60 % 60
    second := ofDay % 60
    weekday := ((days + 4) % 7).toNat
    yearday := daysBeforeMonth (isLeapYear year) month + day - 1 }

/-- The hour of a clock with twelve hours. -/
def hour12 (m : Moment) : Nat := if m.hour % 12 = 0 then 12 else m.hour % 12

/-- The English name of the day. -/
def dayName (m : Moment) : List Char := (dayNames.getD m.weekday "").toList

/-- The English name of the month. -/
def monthName (m : Moment) : List Char := (monthNames.getD (m.month - 1) "").toList

/-- The half of the day. -/
def half (m : Moment) : List Char := if m.hour < 12 then ['A', 'M'] else ['P', 'M']

/-- The week of the year, where weeks begin on the given day of the week. -/
def weekOfYear (m : Moment) (first : Nat) : Nat := (m.yearday + 7 - (m.weekday + 7 - first) % 7) / 7

/-- The year and the week of the year by ISO 8601, where a week belongs to the year that has its
Thursday. -/
def isoWeek (m : Moment) : Int × Nat :=
  let weekday := (m.weekday + 6) % 7
  let week : Int := ((m.yearday : Int) - weekday + 10) / 7
  let weeksIn (year : Int) : Int :=
    let dec31 (y : Int) : Int := (y + y / 4 - y / 100 + y / 400) % 7
    if dec31 year = 4 || dec31 (year - 1) = 3 then 53 else 52
  if week < 1 then (m.year - 1, (weeksIn (m.year - 1)).toNat)
  else if weeksIn m.year < week then (m.year + 1, 1)
  else (m.year, week.toNat)

theorem second_lt_sixty {zone : LocalTime} {seconds : Int} :
    (ofSeconds zone seconds).second < 60 := by
  simp only [ofSeconds]
  omega

theorem minute_lt_sixty {zone : LocalTime} {seconds : Int} :
    (ofSeconds zone seconds).minute < 60 := by
  simp only [ofSeconds]
  omega

theorem hour_lt {zone : LocalTime} {seconds : Int} : (ofSeconds zone seconds).hour < 24 := by
  simp only [ofSeconds]
  omega

end Moment

end SqlBind.Log
