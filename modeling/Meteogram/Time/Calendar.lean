import Meteogram.Fault

/-!
# Calendar

Dates and times of the proleptic Gregorian calendar, from the year 1 to the
year 9999, without time zones. `Date.number` counts the days and
`Date.ofNumber` takes the count back; `Moment.shift` moves a time by seconds.
-/

set_option autoImplicit false

namespace Meteogram.Time

/-! ## Years and months -/

/-- Every fourth year is a leap year, of the full centuries every fourth. -/
def isLeap (year : Nat) : Bool :=
  year % 4 == 0 && (year % 100 != 0 || year % 400 == 0)

/-- The lengths of the months of a year. -/
def monthLengths (year : Nat) : List Nat :=
  [31, if isLeap year then 29 else 28, 31, 30, 31, 30, 31, 31, 30, 31, 30, 31]

/-- The length of a month, the first month being 1. -/
def monthLength (year month : Nat) : Nat :=
  (monthLengths year).getD (month - 1) 0

/-- The number of days in the years before this one. -/
def daysBeforeYear (year : Nat) : Nat :=
  let past := year - 1
  365 * past + past / 4 - past / 100 + past / 400

/-- The number of days in the months of the year before this one. -/
def daysBeforeMonth (year month : Nat) : Nat :=
  ((monthLengths year).take (month - 1)).foldr (· + ·) 0

/-- The last year of the calendar. -/
def lastYear : Nat := 9999

/-! ## Dates -/

/-- A date. -/
structure Date where
  year : Nat
  /-- From 1 to 12. -/
  month : Nat
  /-- From 1 on. -/
  day : Nat
  deriving DecidableEq, Repr

namespace Date

/-- The date exists in the calendar. -/
def isValid (date : Date) : Bool :=
  1 ≤ date.year && date.year ≤ lastYear && 1 ≤ date.month && date.month ≤ 12 &&
    1 ≤ date.day && date.day ≤ monthLength date.year date.month

/-- The number of days before the date in its year. -/
def daysBefore (date : Date) : Nat :=
  daysBeforeMonth date.year date.month + (date.day - 1)

/-- The number of the day in its year, the first of January being 1. -/
def dayOfYear (date : Date) : Nat :=
  date.daysBefore + 1

/-- The number of days from the first day of the calendar to the date. -/
def number (date : Date) : Nat :=
  daysBeforeYear date.year + date.daysBefore

/-- Month and day that a number of days into a year is, given the lengths of
the months from `month` on. -/
def monthDay : List Nat → Nat → Nat → Nat × Nat
  | [], month, days => (month, days + 1)
  | length :: lengths, month, days =>
    if days < length then (month, days + 1) else monthDay lengths (month + 1) (days - length)

/-- The year in which a number of days from the start of the calendar falls.
The mean length of a year gives it but for one. -/
def yearOf (days : Nat) : Nat :=
  let guess := 400 * days / 146097 + 1
  if daysBeforeYear (guess + 1) ≤ days then guess + 1
  else if daysBeforeYear guess ≤ days then guess
  else guess - 1

/-- The date a number of days from the start of the calendar. -/
def ofNumber (days : Nat) : Date :=
  let year := yearOf days
  let (month, day) := monthDay (monthLengths year) 1 (days - daysBeforeYear year)
  ⟨year, month, day⟩

end Date

/-! ## Times -/

/-- A date and a time of day. -/
structure Moment where
  date : Date
  hour : Nat
  minute : Nat
  second : Nat := 0
  /-- Millionths of a second. -/
  micro : Nat := 0
  deriving DecidableEq, Repr

namespace Moment

/-- The seconds in a day. -/
def daySeconds : Nat := 86400

/-- Midnight at the start of a date. -/
def ofDate (date : Date) : Moment := { date, hour := 0, minute := 0 }

/-- The seconds from the start of the calendar. -/
def seconds (moment : Moment) : Nat :=
  moment.date.number * daySeconds + moment.hour * 3600 + moment.minute * 60 + moment.second

/-- The time a number of seconds from the start of the calendar. -/
def ofSeconds (seconds : Nat) : Moment :=
  let rest := seconds % daySeconds
  { date := .ofNumber (seconds / daySeconds)
    hour := rest / 3600
    minute := rest % 3600 / 60
    second := rest % 60 }

/-- The seconds from the start of the calendar to its end. -/
def endSeconds : Nat := daysBeforeYear (lastYear + 1) * daySeconds

/-- The time so many seconds later; there is none outside the calendar. -/
def shift (moment : Moment) (seconds : Int) : Except Fault Moment :=
  let total := (moment.seconds : Int) + seconds
  if total < 0 || (endSeconds : Int) ≤ total then .error .outOfRange
  else .ok { ofSeconds total.toNat with micro := moment.micro }

/-- The minute in which the time falls. -/
def wholeMinute (moment : Moment) : Moment :=
  { moment with second := 0, micro := 0 }

/-- The time is not after the other one. -/
def atMost (first second : Moment) : Bool :=
  first.seconds * 1000000 + first.micro ≤ second.seconds * 1000000 + second.micro

/-- The first day of the count that timestamps start from, the year 1970. -/
def epoch : Moment := ofDate ⟨1970, 1, 1⟩

/-- Milliseconds from the epoch to the time, of which fractions of a second are
left out. -/
def milliseconds (moment : Moment) : Int :=
  ((moment.seconds : Int) - epoch.seconds) * 1000

end Moment

end Meteogram.Time
