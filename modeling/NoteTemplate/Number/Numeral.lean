import NoteTemplate.Number.Power

/-!
# Reading numerals

A numeral is read whole or refused. Integers are read in base ten and kept when
they fit their width; decimals are read to the nearest double. The readers accept
an optional sign of either kind, as the texts of a template may carry one.
-/

namespace NoteTemplate.Number

/-- The value of a decimal digit. -/
def digitValue (c : Char) : Nat := c.toNat - '0'.toNat

/-- The value of a list of decimal digits. -/
def ofDigits (text : List Char) : Nat :=
  text.foldl (fun value c => value * 10 + digitValue c) 0

/-- A non-empty text of decimal digits and nothing else. -/
def isDigits (text : List Char) : Bool := !text.isEmpty && text.all Char.isDigit

/-- The value of a hexadecimal digit. -/
def hexDigit? (c : Char) : Option Nat :=
  if c.isDigit then some (digitValue c)
  else if 'a' ≤ c ∧ c ≤ 'f' then some (c.toNat - 'a'.toNat + 10)
  else if 'A' ≤ c ∧ c ≤ 'F' then some (c.toNat - 'A'.toNat + 10)
  else none

/-- The value of digits in a base that is at most sixteen. -/
def inBase? (base : Nat) (text : List Char) : Option Nat :=
  text.foldl
    (fun value c => do return (← value) * base + (← (hexDigit? c).filter (· < base))) (some 0)

/-- The value of hexadecimal digits. -/
def ofHex? (text : List Char) : Option Nat := inBase? 16 text

/-- Separates an optional sign from the text; the flag is set for a minus. -/
def splitSign : List Char → Bool × List Char
  | '-' :: rest => (true, rest)
  | '+' :: rest => (false, rest)
  | text => (false, text)

/-- Reads an optionally signed decimal integer. -/
def integer? (text : List Char) : Option Int :=
  let (negative, rest) := splitSign text
  if isDigits rest then
    some (if negative then -(ofDigits rest : Int) else (ofDigits rest : Int))
  else none

/-- Reads an integer that fits sixty-four signed bits. -/
def int64? (text : List Char) : Option Int64 :=
  match integer? text with
  | some value =>
    if Int64.minValue.toInt ≤ value ∧ value ≤ Int64.maxValue.toInt then
      some (Int64.ofInt value)
    else none
  | none => none

/-- The largest count that fits sixty-four unsigned bits. -/
def largestCount : Nat := twoTo 64 - 1

/-- Reads a count that fits sixty-four unsigned bits; a plus sign may precede it. -/
def count? (text : List Char) : Option Nat :=
  let rest := match text with
    | '+' :: rest => rest
    | _ => text
  if isDigits rest && ofDigits rest ≤ largestCount then some (ofDigits rest) else none

/-- The positive infinity. -/
def infinity : Float := 1.0 / 0.0

/-- The double nearest to `mantissa * 10 ^ exponent`. Beyond the range of doubles
the answer is an infinity or zero, and no large power is formed. -/
def nearest (mantissa : Nat) (exponent : Int) : Float :=
  if mantissa = 0 then 0
  else
    let magnitude := ((Nat.toDigits 10 mantissa).length : Int) + exponent
    if magnitude > 310 then infinity
    else if magnitude < -330 then 0
    else if exponent < 0 then Float.ofScientific mantissa true (-exponent).toNat
    else Float.ofScientific mantissa false exponent.toNat

/-- Reads what follows the mantissa digits: nothing, or an exponent. -/
def exponent? : List Char → Option Int
  | [] => some 0
  | c :: rest => if c = 'e' ∨ c = 'E' then integer? rest else none

/-- An unsigned decimal: digits, optionally a point and more digits, optionally
an exponent, with at least one digit outside the exponent. -/
def unsignedDecimal? (text : List Char) : Option Float :=
  let whole := text.takeWhile Char.isDigit
  let afterWhole := text.dropWhile Char.isDigit
  let (fraction, rest) := match afterWhole with
    | '.' :: more => (more.takeWhile Char.isDigit, more.dropWhile Char.isDigit)
    | other => ([], other)
  if whole.isEmpty && fraction.isEmpty then none
  else
    (exponent? rest).map fun exponent =>
      nearest (ofDigits (whole ++ fraction)) (exponent - (fraction.length : Int))

/-- The names of the doubles that are no finite number, without regard to case. -/
def namedDouble? (text : List Char) : Option Float :=
  let lower := text.map Char.toLower
  if lower = "inf".toList ∨ lower = "infinity".toList then some infinity
  else if lower = "nan".toList then some (0.0 / 0.0)
  else none

/-- Reads an optionally signed decimal or the name of an infinity or of no number. -/
def double? (text : List Char) : Option Float :=
  let (negative, rest) := splitSign text
  let magnitude := (namedDouble? rest).or (unsignedDecimal? rest)
  magnitude.map fun value => if negative then -value else value

/-- Reads a decimal whose nearest double is finite. -/
def finiteDouble? (text : List Char) : Option Float :=
  (double? text).filter Float.isFinite

end NoteTemplate.Number
