import NoteTemplate.Fields

/-!
# JSON values

The values of a JSON text. Integers that fit sixty-four bits are kept as
integers, every other number as a double; the fields of an object are kept in
ascending order of their names.
-/

namespace NoteTemplate

/-- A JSON value. -/
inductive Json where
  /-- The value `null`. -/
  | null
  /-- A truth value. -/
  | bool (value : Bool)
  /-- An integer that fits sixty-four bits, signed or unsigned. -/
  | int (value : Int)
  /-- A finite double. -/
  | float (value : Float)
  /-- A text. -/
  | string (text : String)
  /-- A list of values. -/
  | array (items : List Json)
  /-- Named values in ascending order of their names. -/
  | object (fields : List (String × Json))
deriving Inhabited

namespace Json

/-- A double as JSON, which has no way to write one that is not finite. -/
def ofFloat (value : Float) : Json := if value.isFinite then .float value else .null

/-- The text of a string value. -/
def string? : Json → Option String
  | .string text => some text
  | _ => none

/-- The fields of an object. -/
def fields : Json → Fields Json
  | .object fields => fields
  | _ => []

/-- The value of a field of an object. -/
def field? (json : Json) (name : String) : Option Json := Fields.find? name json.fields

end Json

end NoteTemplate
