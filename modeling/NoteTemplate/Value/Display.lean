import NoteTemplate.Value.Json

/-!
# The text of a value

What a value looks like where a template inserts it. Numbers are written without
an exponent and without a useless fraction, the items of a list are joined, and a
mapping is written as JSON.
-/

namespace NoteTemplate

namespace Value

/-- Doubles are written in full, however large or small; of two decimals equally
near the larger is taken. -/
def numberStyle : Number.Style where
  tie := .up
  wholeEnding := []
  positional := none
  positiveExponent := []

/-- A double in full, with its sign even if it is a zero. -/
def doubleText (value : Float) : List Char :=
  match Number.Binary64.ofFloat value with
  | .nan => "NaN".toList
  | .infinite negative => (if negative then ['-'] else []) ++ "inf".toList
  | .finite negative mantissa exponent => numberStyle.finite negative mantissa exponent

/-- Integers of at most this many digits are written exactly when they stand in a double. -/
def exactIntegerLimit : Nat := Number.tenTo 15

/-- A double as an integer if it is one below the limit, and in full otherwise. -/
def numberText (value : Float) : List Char :=
  match (Number.Binary64.ofFloat value).integer? with
  | some whole =>
    if whole.natAbs < exactIntegerLimit then Number.integerText whole else doubleText value
  | none => doubleText value

mutual

/-- The text of a value where it is inserted. -/
def display : Value → String
  | .null => ""
  | .bool value => if value then "true" else "false"
  | .int value => String.ofList (Number.integerText value.toInt)
  | .float value => String.ofList (numberText value)
  | .string text => text
  | .moment time => Calendar.format Calendar.plainItems time
  | .list items => Text.joined ", " (displayItems items)
  | .map fields => (Value.map fields).letteredJson.compact

/-- The texts of the items of a list. -/
def displayItems : List Value → List String
  | [] => []
  | item :: rest => display item :: displayItems rest

end

end Value

end NoteTemplate
