import NoteTemplate.Calendar.Pattern
import NoteTemplate.Fields
import NoteTemplate.Text.Blank
import NoteTemplate.Text.Pieces

/-!
# Values

The values that a template can refer to: nothing, truth values, numbers, texts,
moments, lists and mappings. This module holds the readings of a value that do
not depend on where it stands: its number, its truth, its size, and the equality
that tells two values of one kind apart.
-/

namespace NoteTemplate

open Calendar (Moment)

/-- A value that a name can be bound to. -/
inductive Value where
  /-- Nothing. -/
  | null
  /-- A truth value. -/
  | bool (value : Bool)
  /-- An integer of sixty-four bits. -/
  | int (value : Int64)
  /-- A double. -/
  | float (value : Float)
  /-- A text. -/
  | string (text : String)
  /-- A moment. -/
  | moment (time : Moment)
  /-- Values in order. -/
  | list (items : List Value)
  /-- Values under names, in ascending order of the names. -/
  | map (fields : List (String × Value))
deriving Inhabited

namespace Value

/-- The integer of sixty-four bits that a natural number is, or its digits. -/
def ofNat (value : Nat) : Value :=
  if (value : Int) ≤ Int64.maxValue.toInt then .int (Int64.ofInt value)
  else .string (String.ofList (Number.digits value))

/-- The value, or nothing. -/
def ofOption (value : Option Value) : Value := value.getD .null

/-- The text of a string. -/
def text? : Value → Option String
  | .string text => some text
  | _ => none

/-- The items of a list. -/
def items? : Value → Option (List Value)
  | .list items => some items
  | _ => none

/-- The fields of a mapping. -/
def fields? : Value → Option (Fields Value)
  | .map fields => some fields
  | _ => none

/-- The moment, if the value is one. -/
def moment? : Value → Option Moment
  | .moment time => some time
  | _ => none

/-- A field of a mapping. -/
def field? (value : Value) (name : String) : Option Value :=
  value.fields?.bind fun fields => Fields.find? name fields

/-- Whether the value is nothing. -/
def isNull : Value → Bool
  | .null => true
  | _ => false

/-- The number that a value reads as: numbers themselves, and texts that are a
numeral between white space. It is always finite. -/
def number? : Value → Option Float
  | .int value => some (Number.ofInt value.toInt)
  | .float value => if value.isFinite then some value else none
  | .string text => Number.finiteDouble? (Text.trim text.toList)
  | _ => none

/-- Whether a condition that consists of the value alone holds. -/
def isTruthy : Value → Bool
  | .null => false
  | .bool value => value
  | .int value => value != 0
  | .float value => !(value == 0) && !value.isNaN
  | .string text => !Text.isBlankText text
  | .moment _ => true
  | .list items => !items.isEmpty
  | .map fields => !fields.isEmpty

/-- How many items, fields or characters a value has. -/
def size? : Value → Option Nat
  | .list items => some items.length
  | .map fields => some fields.length
  | .string text => some text.length
  | _ => none

/-- Whether a value has no items, fields or characters, or cannot have any. -/
def isEmpty (value : Value) : Bool := value.size?.getD 0 = 0

mutual

/-- Whether two values are of one kind and agree in every part. Moments agree when
they denote the same instant, doubles when they compare equal. -/
def agrees : Value → Value → Bool
  | .null, .null => true
  | .bool left, .bool right => left == right
  | .int left, .int right => left == right
  | .float left, .float right => left == right
  | .string left, .string right => left == right
  | .moment left, .moment right => left.sameInstant right
  | .list left, .list right => agreeItems left right
  | .map left, .map right => agreeFields left right
  | _, _ => false

/-- Whether two lists agree item by item. -/
def agreeItems : List Value → List Value → Bool
  | [], [] => true
  | left :: lefts, right :: rights => agrees left right && agreeItems lefts rights
  | _, _ => false

/-- Whether two mappings have the same names with values that agree. -/
def agreeFields : List (String × Value) → List (String × Value) → Bool
  | [], [] => true
  | (leftName, left) :: lefts, (rightName, right) :: rights =>
    leftName == rightName && agrees left right && agreeFields lefts rights
  | _, _ => false

end

/-- The value that a path of names and list positions leads to. -/
def descend : List String → Value → Option Value
  | [], value => some value
  | segment :: rest, .map fields => (Fields.find? segment fields).bind (descend rest)
  | segment :: rest, .list items =>
    (Number.count? segment.toList).bind fun index => items[index]?.bind (descend rest)
  | _ :: _, _ => none

end Value

/-- The segments of a dotted path. -/
def pathSegments (path : String) : List String :=
  (Text.splitOn '.' path.toList).map String.ofList

end NoteTemplate
