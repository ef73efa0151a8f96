import NoteTemplate.Json.Basic
import NoteTemplate.Number.Numeral
import NoteTemplate.Text.Pieces

/-!
# The meaning of plain scalars

A scalar without quotes can spell nothing, a truth value or a number; whatever it does
not spell is a text. An integer is decimal, or hexadecimal, octal or binary with a
mark, and a run of digits that starts with a zero is a text.
-/

namespace NoteTemplate.Yaml

open Number (isDigits ofDigits)

/-- Whether a scalar spells nothing. -/
def spellsNull (text : List Char) : Bool :=
  text ∈ ["~", "null", "Null", "NULL"].map String.toList

/-- The truth value that a scalar spells. -/
def truth? (text : List Char) : Option Bool :=
  if text ∈ ["true", "True", "TRUE"].map String.toList then some true
  else if text ∈ ["false", "False", "FALSE"].map String.toList then some false
  else none

/-- The value of a digit in bases up to sixteen. -/
def digitOf? (base : Nat) (c : Char) : Option Nat :=
  let value :=
    if c.isDigit then some (c.toNat - '0'.toNat)
    else if 'a' ≤ c ∧ c ≤ 'f' then some (c.toNat - 'a'.toNat + 10)
    else if 'A' ≤ c ∧ c ≤ 'F' then some (c.toNat - 'A'.toNat + 10)
    else none
  value.filter (· < base)

/-- The value of digits in a base; there is at least one. -/
def naturalIn? (base : Nat) (digits : List Char) : Option Nat :=
  if digits.isEmpty then none
  else digits.foldl (fun value c => do return (← value) * base + (← digitOf? base c)) (some 0)

/-- Drops one sign of either kind. -/
def withoutSign : List Char → List Char
  | '+' :: rest => rest
  | '-' :: rest => rest
  | text => text

/-- Whether a scalar consists of digits of which the first one means nothing. -/
def hasIdleZero (text : List Char) : Bool :=
  match withoutSign text with
  | '0' :: more => isDigits more
  | _ => false

/-- The natural number that digits with a mark for their base spell. -/
def marked? : List Char → Option Nat
  | '0' :: 'x' :: digits => naturalIn? 16 digits
  | '0' :: 'o' :: digits => naturalIn? 8 digits
  | '0' :: 'b' :: digits => naturalIn? 2 digits
  | _ => none

/-- The integer that a scalar spells, however large. -/
def integer? (text : List Char) : Option Int :=
  let (negative, digits) := Number.splitSign text
  let magnitude :=
    (marked? digits).or
      (if hasIdleZero text then none else if isDigits digits then some (ofDigits digits) else none)
  magnitude.map fun value => if negative then -(value : Int) else (value : Int)

/-- An integer that fits the given number of bits, with or without a sign. -/
def fits (bits : Nat) (value : Int) : Bool :=
  if value < 0 then -(Number.twoTo (bits - 1) : Int) ≤ value else value < Number.twoTo bits

/-- The double that a scalar spells: a finite decimal, or a word with a dot for an
infinity or for no number. -/
def double? (text : List Char) : Option Float :=
  if text ∈ [".inf", ".Inf", ".INF", "+.inf", "+.Inf", "+.INF"].map String.toList then
    some Number.infinity
  else if text ∈ ["-.inf", "-.Inf", "-.INF"].map String.toList then some (-Number.infinity)
  else if text ∈ [".nan", ".NaN", ".NAN"].map String.toList then some (0.0 / 0.0)
  else Number.finiteDouble? text

/-- What an integer is read as. Beyond sixty-four bits it has no value, but it is a
double when it does not fit twice as many. -/
inductive Sized where
  /-- An integer with a value. -/
  | value (value : Int)
  /-- An integer without a value. -/
  | tooLarge
  /-- No integer. -/
  | none

/-- What a scalar is read as when an integer is looked for. -/
def sized (text : List Char) : Sized :=
  match integer? text with
  | some value =>
    if fits 64 value then .value value else if fits 128 value then .tooLarge else .none
  | none => .none

/-- The value that a plain scalar spells. Only an integer that is too large has none. -/
def plainValue? (text : List Char) : Option Json :=
  if text = [] ∨ spellsNull text then some .null
  else
    match truth? text with
    | some value => some (.bool value)
    | none =>
      match sized text with
      | .value value => some (.int value)
      | .tooLarge => none
      | .none =>
        match if hasIdleZero text then none else double? text with
        | some value => some (Json.ofFloat value)
        | none => some (.string (String.ofList text))

end NoteTemplate.Yaml
