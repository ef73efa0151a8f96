/-!
# Civil dates

Dates of the years 0 to 9999 in the proleptic Gregorian calendar, with the counts
that date patterns print: the day of the year, the day of the week, and the three
ways of numbering weeks.
-/

namespace NoteTemplate.Calendar

/-- A year with a twenty-ninth of February. -/
def isLeapYear (year : Int) : Bool :=
  year % 4 = 0 && (year % 100 != 0 || year % 400 = 0)

/-- The number of days of a year. -/
def daysInYear (year : Int) : Nat := if isLeapYear year then 366 else 365

/-- The number of days of a month, numbered from one. -/
def daysInMonth (year : Int) (month : Nat) : Nat :=
  match month with
  | 2 => if isLeapYear year then 29 else 28
  | 4 | 6 | 9 | 11 => 30
  | _ => 31

/-- The fields name a day of the calendar. -/
def IsDate (year month day : Nat) : Prop :=
  year ≤ 9999 ∧ 1 ≤ month ∧ month ≤ 12 ∧ 1 ≤ day ∧ day ≤ daysInMonth year month

instance (year month day : Nat) : Decidable (IsDate year month day) :=
  inferInstanceAs (Decidable (_ ∧ _))

/-- A day of the calendar. -/
structure Date where
  /-- The year, from 0 to 9999. -/
  year : Nat
  /-- The month, from 1 to 12. -/
  month : Nat
  /-- The day of the month, from 1. -/
  day : Nat
  /-- The three fields name a day. -/
  legal : IsDate year month day
deriving DecidableEq

/-- The date with the given fields, if there is one. -/
def Date.of? (year month day : Nat) : Option Date :=
  if h : IsDate year month day then some ⟨year, month, day, h⟩ else none

namespace Date

/-- Days of the year before a month. -/
def daysBeforeMonth (year : Int) (month : Nat) : Nat :=
  (List.range (month - 1)).foldl (fun days index => days + daysInMonth year (index + 1)) 0

/-- Days between the first day of year 0 and the first day of a year. -/
def daysBeforeYear (year : Nat) : Nat :=
  365 * year + (year + 3) / 4 - (year + 99) / 100 + (year + 399) / 400

/-- The day of the year, counted from one. -/
def ordinal (date : Date) : Nat := daysBeforeMonth date.year date.month + date.day

/-- Days since the first day of year 0. -/
def dayNumber (date : Date) : Nat := daysBeforeYear date.year + date.ordinal - 1

/-- Days since the first of January 1970. -/
def epochDay (date : Date) : Int := (date.dayNumber : Int) - 719528

/-- The day of the week, Sunday being zero. The first day of year 0 is a Saturday. -/
def weekday (date : Date) : Nat := (date.dayNumber + 6) % 7

/-- The day of the week, Monday being one and Sunday seven. -/
def weekdayFromMonday (date : Date) : Nat := (date.weekday + 6) % 7 + 1

/-- The number of the week when weeks start on Sunday and the days before the
first Sunday belong to week zero. -/
def weekFromSunday (date : Date) : Nat := (date.ordinal + 6 - date.weekday) / 7

/-- The number of the week when weeks start on Monday and the days before the
first Monday belong to week zero. -/
def weekFromMonday (date : Date) : Nat := (date.ordinal + 6 - (date.weekday + 6) % 7) / 7

/-- The year and the number of the week in the scheme where a week belongs to the
year that holds its Thursday. -/
def isoWeek (date : Date) : Int × Nat :=
  let year : Int := date.year
  let thursday : Int := date.ordinal + 4 - date.weekdayFromMonday
  if thursday < 1 then
    let length : Int := daysInYear (year - 1)
    (year - 1, ((thursday + length - 1) / 7 + 1).toNat)
  else if (daysInYear year : Int) < thursday then
    (year + 1, ((thursday - daysInYear year - 1) / 7 + 1).toNat)
  else (year, ((thursday - 1) / 7 + 1).toNat)

/-- The quarter of the year, from one to four. -/
def quarter (date : Date) : Nat := (date.month + 2) / 3

end Date

/-- The names of the months, January first. -/
def monthNames : List String :=
  ["January", "February", "March", "April", "May", "June", "July", "August", "September",
    "October", "November", "December"]

/-- The names of the days of the week, Sunday first. -/
def weekdayNames : List String :=
  ["Sunday", "Monday", "Tuesday", "Wednesday", "Thursday", "Friday", "Saturday"]

end NoteTemplate.Calendar
