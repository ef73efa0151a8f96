import NoteTemplate.Json.Writer
import NoteTemplate.Value

/-!
# Values and JSON

`Value.ofJson` reads JSON and turns the texts that are timestamps into moments;
`Value.ofPlainJson` leaves texts as they are. `Value.toJson` writes moments with
their offset in numbers, `Value.letteredJson` with the letter for Greenwich; apart
from that they agree.
-/

namespace NoteTemplate

namespace Value

/-- An integer of sixty-four signed bits as such, any other as the nearest double. -/
def ofInteger (value : Int) : Value :=
  if Int64.minValue.toInt ≤ value ∧ value ≤ Int64.maxValue.toInt then .int (Int64.ofInt value)
  else .float (Number.ofInt value)

/-- A text, or the moment whose timestamp it is. -/
def ofText (text : String) : Value :=
  match Calendar.Moment.ofText? text with
  | some time => .moment time
  | none => .string text

mutual

/-- Reads JSON; texts that are timestamps become moments. -/
def ofJson : Json → Value
  | .null => .null
  | .bool value => .bool value
  | .int value => ofInteger value
  | .float value => .float value
  | .string text => ofText text
  | .array items => .list (ofJsonItems items)
  | .object fields => .map (ofJsonFields fields)

/-- Reads the items of a list. -/
def ofJsonItems : List Json → List Value
  | [] => []
  | item :: rest => ofJson item :: ofJsonItems rest

/-- Reads the fields of an object. -/
def ofJsonFields : List (String × Json) → List (String × Value)
  | [] => []
  | (name, item) :: rest => (name, ofJson item) :: ofJsonFields rest

end

mutual

/-- Reads JSON and leaves every text as it is. -/
def ofPlainJson : Json → Value
  | .null => .null
  | .bool value => .bool value
  | .int value => ofInteger value
  | .float value => .float value
  | .string text => .string text
  | .array items => .list (ofPlainItems items)
  | .object fields => .map (ofPlainFields fields)

/-- Reads the items of a list. -/
def ofPlainItems : List Json → List Value
  | [] => []
  | item :: rest => ofPlainJson item :: ofPlainItems rest

/-- Reads the fields of an object. -/
def ofPlainFields : List (String × Json) → List (String × Value)
  | [] => []
  | (name, item) :: rest => (name, ofPlainJson item) :: ofPlainFields rest

end

mutual

/-- Writes JSON, given how a moment is written. -/
def jsonWith (write : Calendar.Moment → String) : Value → Json
  | .null => .null
  | .bool value => .bool value
  | .int value => .int value.toInt
  | .float value => Json.ofFloat value
  | .string text => .string text
  | .moment time => .string (write time)
  | .list items => .array (jsonItemsWith write items)
  | .map fields => .object (jsonFieldsWith write fields)

/-- Writes the items of a list. -/
def jsonItemsWith (write : Calendar.Moment → String) : List Value → List Json
  | [] => []
  | item :: rest => jsonWith write item :: jsonItemsWith write rest

/-- Writes the fields of a mapping. -/
def jsonFieldsWith (write : Calendar.Moment → String) :
    List (String × Value) → List (String × Json)
  | [] => []
  | (name, item) :: rest => (name, jsonWith write item) :: jsonFieldsWith write rest

end

/-- A value as JSON; every offset is written in numbers. -/
def toJson (value : Value) : Json := value.jsonWith Calendar.Moment.text

/-- A value as JSON; the offset of Greenwich is written as a letter. -/
def letteredJson (value : Value) : Json := value.jsonWith Calendar.Moment.letteredText

end Value

end NoteTemplate
