import NoteTemplate.Calendar.Moment
import NoteTemplate.Text.Blank

/-!
# Date patterns

A date pattern is text with directives that start with a percent sign. `parts?`
reads a pattern whole and refuses it when any directive is unknown; `format`
writes a moment by the items of a pattern. One directive is there for reading moments
only: a pattern that holds it is accepted, but nothing can be written by it (`items?`).
A directive may carry a mark that sets how a number is filled up: not at all, with zeros
or with spaces.
-/

namespace NoteTemplate.Calendar

open Number (integerText)

/-- How a number is filled up to its width. -/
inductive Padding where
  | none
  | zero
  | space
deriving Repr, DecidableEq

/-- The numbers of a moment that a pattern can ask for. -/
inductive Quantity where
  | year
  | century
  | yearOfCentury
  | isoYear
  | isoYearOfCentury
  | quarter
  | month
  | day
  | weekFromSunday
  | weekFromMonday
  | isoWeek
  | weekdayFromSunday
  | weekdayFromMonday
  | dayOfYear
  | hour
  | hourOfHalfDay
  | minute
  | second
  | nanosecond
  | timestamp
deriving Repr, DecidableEq

/-- How an offset from Greenwich is written. -/
inductive OffsetForm where
  /-- Hours and minutes without a colon. -/
  | compact
  /-- Hours and minutes. -/
  | minutes
  /-- Hours, minutes and seconds. -/
  | seconds
  /-- Hours alone. -/
  | hours
deriving Repr, DecidableEq

/-- What a pattern can write. -/
inductive Item where
  /-- Text that stands for itself. -/
  | literal (text : List Char)
  /-- A number with its filling. -/
  | number (quantity : Quantity) (padding : Padding)
  /-- The name of the month, whole or its first three letters. -/
  | monthName (whole : Bool)
  /-- The name of the day of the week, whole or its first three letters. -/
  | weekdayName (whole : Bool)
  /-- The half of the day, in capitals or in small letters. -/
  | halfDay (capital : Bool)
  /-- The fraction of the second with its point, by the shortest form. -/
  | fraction
  /-- The first digits of the fraction of the second, with or without its point. -/
  | fractionDigits (point : Bool) (count : Nat)
  /-- The offset from Greenwich. -/
  | offset (form : OffsetForm)
  /-- The whole timestamp. -/
  | whole
deriving Repr, DecidableEq

/-- One part of a pattern. -/
inductive Part where
  /-- What can be written. -/
  | item (item : Item)
  /-- An offset from Greenwich with its minutes or without them. A moment can be read by it,
  but not written. -/
  | looseOffset
deriving Repr, DecidableEq

/-- What a part writes, if it can be written. -/
def Part.item? : Part → Option Item
  | .item written => some written
  | .looseOffset => none

/-- A number filled with zeros. -/
def zeroPadded (quantity : Quantity) : Item := .number quantity .zero

/-- Items with the same text between each two. -/
def separated (separator : Char) (items : List Item) : List Item :=
  items.intersperse (.literal [separator])

/-- The month, the day and the year of the century. -/
def shortDate : List Item :=
  separated '/' [zeroPadded .month, zeroPadded .day, zeroPadded .yearOfCentury]

/-- The hour, the minute and the second. -/
def clockTime : List Item :=
  separated ':' [zeroPadded .hour, zeroPadded .minute, zeroPadded .second]

/-- The items that a directive of one letter stands for. -/
def directive? : Char → Option (List Item)
  | 'A' => some [.weekdayName true]
  | 'B' => some [.monthName true]
  | 'C' => some [zeroPadded .century]
  | 'D' => some shortDate
  | 'F' => some (separated '-' [zeroPadded .year, zeroPadded .month, zeroPadded .day])
  | 'G' => some [zeroPadded .isoYear]
  | 'H' => some [zeroPadded .hour]
  | 'I' => some [zeroPadded .hourOfHalfDay]
  | 'M' => some [zeroPadded .minute]
  | 'P' => some [.halfDay false]
  | 'R' => some (separated ':' [zeroPadded .hour, zeroPadded .minute])
  | 'S' => some [zeroPadded .second]
  | 'T' => some clockTime
  | 'U' => some [zeroPadded .weekFromSunday]
  | 'V' => some [zeroPadded .isoWeek]
  | 'W' => some [zeroPadded .weekFromMonday]
  | 'X' => some clockTime
  | 'Y' => some [zeroPadded .year]
  | 'Z' => some [.offset .minutes]
  | 'a' => some [.weekdayName false]
  | 'b' => some [.monthName false]
  | 'h' => some [.monthName false]
  | 'c' =>
    some (separated ' ' [.weekdayName false, .monthName false, .number .day .space] ++
      .literal [' '] :: clockTime ++ [.literal [' '], zeroPadded .year])
  | 'd' => some [zeroPadded .day]
  | 'e' => some [.number .day .space]
  | 'f' => some [zeroPadded .nanosecond]
  | 'g' => some [zeroPadded .isoYearOfCentury]
  | 'j' => some [zeroPadded .dayOfYear]
  | 'k' => some [.number .hour .space]
  | 'l' => some [.number .hourOfHalfDay .space]
  | 'm' => some [zeroPadded .month]
  | 'n' => some [.literal ['\n']]
  | 'p' => some [.halfDay true]
  | 'q' => some [.number .quarter .none]
  | 'r' =>
    some (separated ':' [zeroPadded .hourOfHalfDay, zeroPadded .minute, zeroPadded .second] ++
      [.literal [' '], .halfDay true])
  | 's' => some [.number .timestamp .none]
  | 't' => some [.literal ['\t']]
  | 'u' => some [.number .weekdayFromMonday .none]
  | 'v' => some (separated '-' [.number .day .space, .monthName false, zeroPadded .year])
  | 'w' => some [.number .weekdayFromSunday .none]
  | 'x' => some shortDate
  | 'y' => some [zeroPadded .yearOfCentury]
  | 'z' => some [.offset .compact]
  | '+' => some [.whole]
  | '%' => some [.literal ['%']]
  | _ => none

/-- Reads a directive of several characters from the front of a text, without its
percent sign and its mark. -/
def longDirective? : List Char → Option (Part × List Char)
  | ':' :: ':' :: ':' :: 'z' :: rest => some (.item (.offset .hours), rest)
  | ':' :: ':' :: 'z' :: rest => some (.item (.offset .seconds), rest)
  | ':' :: 'z' :: rest => some (.item (.offset .minutes), rest)
  | '#' :: 'z' :: rest => some (.looseOffset, rest)
  | '.' :: 'f' :: rest => some (.item .fraction, rest)
  | '.' :: '3' :: 'f' :: rest => some (.item (.fractionDigits true 3), rest)
  | '.' :: '6' :: 'f' :: rest => some (.item (.fractionDigits true 6), rest)
  | '.' :: '9' :: 'f' :: rest => some (.item (.fractionDigits true 9), rest)
  | '3' :: 'f' :: rest => some (.item (.fractionDigits false 3), rest)
  | '6' :: 'f' :: rest => some (.item (.fractionDigits false 6), rest)
  | '9' :: 'f' :: rest => some (.item (.fractionDigits false 9), rest)
  | _ => none

/-- The filling that a mark asks for. -/
def mark? : Char → Option Padding
  | '-' => some .none
  | '0' => some .zero
  | '_' => some .space
  | _ => none

/-- Reads what follows a percent sign. A mark is for a single number only. -/
def takeDirective? : List Char → Option (List Part × List Char)
  | [] => none
  | c :: rest =>
    match mark? c with
    | some padding =>
      match rest with
      | [] => none
      | d :: rest =>
        match directive? d with
        | some [.number quantity _] => some ([.item (.number quantity padding)], rest)
        | _ => none
    | none =>
      match directive? c with
      | some items => some (items.map .item, rest)
      | none => (longDirective? (c :: rest)).map fun (part, rest) => ([part], rest)

/-- What a long directive leaves is shorter than what it was read from. -/
theorem longDirective?_length {text rest : List Char} {part : Part}
    (h : longDirective? text = some (part, rest)) : rest.length < text.length := by
  unfold longDirective? at h
  split at h <;> simp at h <;> obtain ⟨_, rfl⟩ := h <;> simp <;> omega

/-- What a directive leaves is shorter than what it was read from. -/
theorem takeDirective?_length {text rest : List Char} {parts : List Part}
    (h : takeDirective? text = some (parts, rest)) : rest.length < text.length := by
  unfold takeDirective? at h
  split at h
  · simp at h
  · split at h
    · split at h
      · simp at h
      · split at h
        · simp at h
          obtain ⟨_, rfl⟩ := h
          simp only [List.length_cons]
          omega
        · simp at h
    · split at h
      · simp at h
        obtain ⟨_, rfl⟩ := h
        simp
      · rw [Option.map_eq_some_iff] at h
        obtain ⟨⟨part, left⟩, found, same⟩ := h
        simp at same
        obtain ⟨_, rfl⟩ := same
        exact longDirective?_length found

/-- Reads a pattern whole, or refuses it. -/
def parts? (text : List Char) : Option (List Part) :=
  match text with
  | [] => some []
  | c :: rest =>
    if c = '%' then
      match _found : takeDirective? rest with
      | some (parts, left) => (parts? left).map fun more => parts ++ more
      | none => none
    else (parts? rest).map fun more => .item (.literal [c]) :: more
termination_by text.length
decreasing_by
  all_goals simp_wf
  have := takeDirective?_length ‹_›
  omega

/-- What the parts of a pattern write, if all of them can be written. -/
def items? (parts : List Part) : Option (List Item) := parts.mapM Part.item?

/-- A part that can be written is written in front of the others. -/
theorem items?_cons_item (written : Item) (parts : List Part) :
    items? (.item written :: parts) = (items? parts).map (written :: ·) := by
  simp only [items?, List.mapM_cons, Part.item?]
  cases parts.mapM Part.item? <;> rfl

/-- A pattern cannot be written exactly when one of its parts is for reading only. -/
theorem items?_eq_none_iff (parts : List Part) : items? parts = none ↔ .looseOffset ∈ parts := by
  induction parts with
  | nil => simp [items?]
  | cons part rest ih =>
    cases part with
    | item written => simp [items?_cons_item, ih]
    | looseOffset => simp [items?, Part.item?]

/-- Fills up the text of a number; a sign stays in front of zeros. -/
def fillNumber (padding : Padding) (width : Nat) (value : Int) : List Char :=
  match padding with
  | .none => integerText value
  | .space => filled ' ' width (integerText value)
  | .zero =>
    if value < 0 then '-' :: padded (width - 1) value.natAbs else padded width value.natAbs

/-- The width and the value of a quantity. -/
def Quantity.measure (quantity : Quantity) (moment : Moment) : Nat × Int :=
  let date := moment.date
  let clock := moment.clock
  match quantity with
  | .year => (4, date.year)
  | .century => (2, date.year / 100)
  | .yearOfCentury => (2, date.year % 100)
  | .isoYear => (4, date.isoWeek.1)
  | .isoYearOfCentury => (2, date.isoWeek.1 % 100)
  | .quarter => (1, date.quarter)
  | .month => (2, date.month)
  | .day => (2, date.day)
  | .weekFromSunday => (2, date.weekFromSunday)
  | .weekFromMonday => (2, date.weekFromMonday)
  | .isoWeek => (2, date.isoWeek.2)
  | .weekdayFromSunday => (1, date.weekday)
  | .weekdayFromMonday => (1, date.weekdayFromMonday)
  | .dayOfYear => (3, date.ordinal)
  | .hour => (2, clock.hour)
  | .hourOfHalfDay => (2, (clock.hour + 11) % 12 + 1)
  | .minute => (2, clock.minute)
  | .second => (2, clock.second)
  | .nanosecond => (9, clock.nanosecond)
  | .timestamp => (9, moment.epochSecond)

/-- Writes a quantity. A year outside 0 to 9999 always shows its sign, for which
its width grows by one. -/
def Quantity.write (quantity : Quantity) (padding : Padding) (moment : Moment) : List Char :=
  let (width, value) := quantity.measure moment
  match quantity with
  | .year | .isoYear =>
    if value < 0 then fillNumber padding (width + 1) value
    else if 9999 < value then '+' :: integerText value
    else fillNumber padding width value
  | _ => fillNumber padding width value

/-- Writes an offset from Greenwich, given in minutes. -/
def OffsetForm.write (form : OffsetForm) (offset : Int) : List Char :=
  match form with
  | .compact => offsetText [] offset
  | .minutes => offsetText [':'] offset
  | .seconds => offsetText [':'] offset ++ ":00".toList
  | .hours => (if offset < 0 then '-' else '+') :: padded 2 (offset.natAbs / 60)

/-- A name, or its first three letters. -/
def nameAt (names : List String) (index : Nat) (whole : Bool) : List Char :=
  let name := (names.getD index "").toList
  if whole then name else name.take 3

/-- Writes one item of a pattern. -/
def Item.write (moment : Moment) : Item → List Char
  | .literal text => text
  | .number quantity padding => quantity.write padding moment
  | .monthName full => nameAt monthNames (moment.date.month - 1) full
  | .weekdayName full => nameAt weekdayNames moment.date.weekday full
  | .halfDay capital =>
    match decide (moment.clock.hour < 12), capital with
    | true, true => "AM".toList
    | true, false => "am".toList
    | false, true => "PM".toList
    | false, false => "pm".toList
  | .fraction => shortFraction moment.clock.nanosecond
  | .fractionDigits point count =>
    (if point then ['.'] else []) ++
      padded count (moment.clock.nanosecond / Number.tenTo (9 - count))
  | .offset form => form.write moment.offset
  | .whole => moment.text.toList

/-- The year of a moment fills its width and shows no sign. -/
theorem write_year (now : Moment) : (zeroPadded .year).write now = padded 4 now.date.year := by
  have late : ¬ 9999 < (now.date.year : Int) := by
    have year := now.date.legal.1
    omega
  have early : ¬ (now.date.year : Int) < 0 := by omega
  simp [zeroPadded, Item.write, Quantity.write, Quantity.measure,
    fillNumber, late, early]

/-- Writes a moment by the items of a pattern. -/
def format (items : List Item) (moment : Moment) : String :=
  String.ofList (items.flatMap (Item.write moment))

/-- The pattern of a date: the year, the month and the day. -/
def dayItems : List Item :=
  separated '-' [zeroPadded .year, zeroPadded .month, zeroPadded .day]

/-- The pattern of a time of day to the minute. -/
def minuteItems : List Item := separated ':' [zeroPadded .hour, zeroPadded .minute]

/-- The pattern of a moment in the text of a note: the date and the time to the second. -/
def plainItems : List Item := dayItems ++ .literal [' '] :: clockTime

/-- The pattern of a timestamp to the second, with its offset in numbers. -/
def stampItems : List Item := dayItems ++ .literal ['T'] :: clockTime ++ [.offset .minutes]

end NoteTemplate.Calendar
