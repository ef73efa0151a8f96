import NoteTemplate.Calendar.Date
import NoteTemplate.Number.Decimal
import NoteTemplate.Number.Numeral

/-!
# Moments

A moment is a date and a time of day as a clock at some offset from Greenwich
shows them. Moments are compared by the instant they denote, so two moments with
different clocks can be equal. The sixtieth second of a minute is a leap second
and comes between the second before and the minute after.

`Moment.text` writes the Internet timestamp form and `Moment.ofText?` reads it.
-/

namespace NoteTemplate.Calendar

open Number (digits)

/-- The fields name a time of day; second 60 is a leap second. -/
def IsClock (hour minute second nanosecond : Nat) : Prop :=
  hour < 24 ∧ minute < 60 ∧ second ≤ 60 ∧ nanosecond < 1000000000

instance (hour minute second nanosecond : Nat) :
    Decidable (IsClock hour minute second nanosecond) :=
  inferInstanceAs (Decidable (_ ∧ _))

/-- A time of day. -/
structure Clock where
  /-- The hour, from 0 to 23. -/
  hour : Nat
  /-- The minute, from 0 to 59. -/
  minute : Nat
  /-- The second, from 0 to 60. -/
  second : Nat
  /-- The fraction of the second in billionths. -/
  nanosecond : Nat
  /-- The four fields name a time of day. -/
  legal : IsClock hour minute second nanosecond
deriving DecidableEq

/-- The time of day with the given fields, if there is one. -/
def Clock.of? (hour minute second nanosecond : Nat) : Option Clock :=
  if h : IsClock hour minute second nanosecond then
    some ⟨hour, minute, second, nanosecond, h⟩
  else none

/-- A distance from Greenwich of less than a day. -/
def IsOffset (minutes : Int) : Prop := -1440 < minutes ∧ minutes < 1440

instance (minutes : Int) : Decidable (IsOffset minutes) := inferInstanceAs (Decidable (_ ∧ _))

/-- A date and a time of day on a clock at an offset from Greenwich. A year has at most four digits
and an offset is in whole minutes, so these are the moments that an Internet timestamp can denote;
earlier and later ones, and clocks that are seconds apart, are left out. -/
structure Moment where
  /-- The date that the clock shows. -/
  date : Date
  /-- The time of day that the clock shows. -/
  clock : Clock
  /-- Minutes by which the clock is ahead of Greenwich. -/
  offset : Int
  /-- The clock is less than a day ahead of Greenwich or behind it. -/
  near : IsOffset offset
deriving DecidableEq

namespace Moment

/-- The moment with the given fields, if there is one. -/
def of? (date : Option Date) (clock : Option Clock) (offset : Int) : Option Moment :=
  match date, clock with
  | some date, some clock => if h : IsOffset offset then some ⟨date, clock, offset, h⟩ else none
  | _, _ => none

/-- The start of the year 1970 at Greenwich. -/
def epoch : Moment := ⟨⟨1970, 1, 1, by decide⟩, ⟨0, 0, 0, 0, by decide⟩, 0, by decide⟩

/-- Seconds of the clock since midnight; a leap second counts with the one before. -/
def secondOfDay (moment : Moment) : Nat :=
  moment.clock.hour * 3600 + moment.clock.minute * 60 + min moment.clock.second 59

/-- Seconds since the first of January 1970 at Greenwich. -/
def epochSecond (moment : Moment) : Int :=
  moment.date.epochDay * 86400 + moment.secondOfDay - moment.offset * 60

/-- Billionths since the start of the second, a leap second lying beyond the end of it. -/
def subsecond (moment : Moment) : Nat :=
  moment.clock.nanosecond + if moment.clock.second = 60 then 1000000000 else 0

/-- Compares the instants that two moments denote. -/
def compareInstant (left right : Moment) : Ordering :=
  (compare left.epochSecond right.epochSecond).then (compare left.subsecond right.subsecond)

/-- Whether two moments denote the same instant. -/
def sameInstant (left right : Moment) : Bool := left.compareInstant right == .eq

end Moment

/-- Writes a number with at least `width` characters, filling up on the left. -/
def filled (fill : Char) (width : Nat) (text : List Char) : List Char :=
  List.replicate (width - text.length) fill ++ text

/-- Writes a number with at least `width` digits. -/
def padded (width value : Nat) : List Char := filled '0' width (digits value)

/-- The fraction of a second with no digits, or with three, six or nine, whichever
is the least that loses nothing. -/
def shortFraction (nanosecond : Nat) : List Char :=
  if nanosecond = 0 then []
  else if nanosecond % 1000000 = 0 then '.' :: padded 3 (nanosecond / 1000000)
  else if nanosecond % 1000 = 0 then '.' :: padded 6 (nanosecond / 1000)
  else '.' :: padded 9 nanosecond

/-- An offset as a sign, hours and minutes. -/
def offsetText (separator : List Char) (offset : Int) : List Char :=
  (if offset < 0 then '-' else '+') :: padded 2 (offset.natAbs / 60) ++ separator ++
    padded 2 (offset.natAbs % 60)

namespace Moment

/-- Writes the date and the time of day without an offset. -/
def localText (moment : Moment) : List Char :=
  padded 4 moment.date.year ++ '-' :: padded 2 moment.date.month ++
    '-' :: padded 2 moment.date.day ++ 'T' :: padded 2 moment.clock.hour ++
    ':' :: padded 2 moment.clock.minute ++ ':' :: padded 2 moment.clock.second ++
    shortFraction moment.clock.nanosecond

/-- Writes a timestamp that gives every offset in numbers. -/
def text (moment : Moment) : String :=
  String.ofList (moment.localText ++ offsetText [':'] moment.offset)

/-- Writes a timestamp that calls the offset of Greenwich by its letter. -/
def letteredText (moment : Moment) : String :=
  String.ofList
    (moment.localText ++ if moment.offset = 0 then ['Z'] else offsetText [':'] moment.offset)

end Moment

/-- Reads exactly `count` decimal digits from the front of a text. -/
def takeDigits? (count : Nat) (text : List Char) : Option (Nat × List Char) :=
  let front := text.take count
  if front.length = count ∧ front.all Char.isDigit then
    some (Number.ofDigits front, text.drop count)
  else none

/-- Reads one of the given characters from the front of a text. -/
def takeOne? (allowed : List Char) : List Char → Option (List Char)
  | c :: rest => if c ∈ allowed then some rest else none
  | [] => none

/-- Reads an optional fraction of a second; digits beyond the ninth are dropped. -/
def takeFraction? : List Char → Option (Nat × List Char)
  | '.' :: text =>
    let front := text.takeWhile Char.isDigit
    if front.isEmpty then none
    else
      let nine := front.take 9
      some (Number.ofDigits nine * Number.tenTo (9 - nine.length), text.dropWhile Char.isDigit)
  | text => some (0, text)

/-- Reads the sign of an offset; the flag is set for a minus. -/
def takeOffsetSign? : List Char → Option (Bool × List Char)
  | '+' :: rest => some (false, rest)
  | '-' :: rest => some (true, rest)
  | '\u2212' :: rest => some (true, rest)
  | _ => none

/-- Reads an offset from Greenwich in minutes, as a letter or in numbers. -/
def takeOffset? (text : List Char) : Option (Int × List Char) :=
  match takeOne? ['Z', 'z'] text with
  | some rest => some (0, rest)
  | none => do
    let (negative, text) ← takeOffsetSign? text
    let (hours, text) ← takeDigits? 2 text
    let text ← takeOne? [':'] text
    let (minutes, text) ← takeDigits? 2 text
    if minutes < 60 then
      let offset : Int := hours * 60 + minutes
      some (if negative then -offset else offset, text)
    else none

/-- Reads a whole text as a timestamp. -/
def Moment.read? (text : List Char) : Option Moment := do
  let (year, text) ← takeDigits? 4 text
  let text ← takeOne? ['-'] text
  let (month, text) ← takeDigits? 2 text
  let text ← takeOne? ['-'] text
  let (day, text) ← takeDigits? 2 text
  let text ← takeOne? ['T', 't', ' '] text
  let (hour, text) ← takeDigits? 2 text
  let text ← takeOne? [':'] text
  let (minute, text) ← takeDigits? 2 text
  let text ← takeOne? [':'] text
  let (second, text) ← takeDigits? 2 text
  let (nanosecond, text) ← takeFraction? text
  let (offset, text) ← takeOffset? text
  guard text.isEmpty
  Moment.of? (Date.of? year month day) (Clock.of? hour minute second nanosecond) offset

/-- Reads a string as a timestamp. -/
def Moment.ofText? (text : String) : Option Moment := Moment.read? text.toList

end NoteTemplate.Calendar
