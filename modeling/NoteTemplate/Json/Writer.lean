import NoteTemplate.Json.Basic
import NoteTemplate.Number.Decimal

/-!
# Writing JSON

`Json.compact` writes a value without white space, `Json.pretty` with one field
or item a line. Strings escape the quote, the backslash and the control
characters of ASCII, and nothing else.
-/

namespace NoteTemplate

namespace Json

/-- Doubles are written with a point or an exponent; the exponent form starts at
seventeen digits before the point and at five zeros after it, and a positive
exponent carries its sign. -/
def numberStyle : Number.Style where
  tie := .even
  wholeEnding := ['.', '0']
  positional := some (-4, 16)
  positiveExponent := ['+']

/-- Writes a double; what is not finite is written as `null`. -/
def floatText (value : Float) : List Char :=
  match Number.Binary64.ofFloat value with
  | .finite negative mantissa exponent => numberStyle.finite negative mantissa exponent
  | _ => "null".toList

/-- The written form of a character inside a string. -/
def escaped (c : Char) : List Char :=
  if c = '"' then ['\\', '"']
  else if c = '\\' then ['\\', '\\']
  else if c = '\n' then ['\\', 'n']
  else if c = '\r' then ['\\', 'r']
  else if c = '\t' then ['\\', 't']
  else if c = '\x08' then ['\\', 'b']
  else if c = '\x0c' then ['\\', 'f']
  else if c.toNat < 0x20 then
    let hex := Nat.toDigits 16 c.toNat
    "\\u".toList ++ List.replicate (4 - hex.length) '0' ++ hex
  else [c]

/-- Writes a string between quotes. -/
def quoted (text : String) : List Char := '"' :: text.toList.flatMap escaped ++ ['"']

mutual

/-- Writes a value without white space. -/
def compactText : Json → List Char
  | .null => "null".toList
  | .bool value => if value then "true".toList else "false".toList
  | .int value => Number.integerText value
  | .float value => floatText value
  | .string text => quoted text
  | .array items => '[' :: compactItems items ++ [']']
  | .object fields => '{' :: compactFields fields ++ ['}']

/-- Writes the items of a list with commas between them. -/
def compactItems : List Json → List Char
  | [] => []
  | [item] => compactText item
  | item :: next :: rest => compactText item ++ ',' :: compactItems (next :: rest)

/-- Writes the fields of an object with commas between them. -/
def compactFields : List (String × Json) → List Char
  | [] => []
  | [(name, value)] => quoted name ++ ':' :: compactText value
  | (name, value) :: next :: rest =>
    quoted name ++ ':' :: compactText value ++ ',' :: compactFields (next :: rest)

end

/-- A value as text without white space. -/
def compact (json : Json) : String := String.ofList json.compactText

/-- A line feed and two spaces for every level of nesting. -/
def newline (level : Nat) : List Char := '\n' :: List.replicate (2 * level) ' '

mutual

/-- Writes a value at a level of nesting with one field or item a line. -/
def prettyText (level : Nat) : Json → List Char
  | .array [] => "[]".toList
  | .array (item :: rest) =>
    '[' :: prettyItems (level + 1) (item :: rest) ++ newline level ++ [']']
  | .object [] => ['{', '}']
  | .object (field :: rest) =>
    '{' :: prettyFields (level + 1) (field :: rest) ++ newline level ++ ['}']
  | .null => "null".toList
  | .bool value => if value then "true".toList else "false".toList
  | .int value => Number.integerText value
  | .float value => floatText value
  | .string text => quoted text

/-- Writes the items of a list, each on its own line. -/
def prettyItems (level : Nat) : List Json → List Char
  | [] => []
  | [item] => newline level ++ prettyText level item
  | item :: next :: rest =>
    newline level ++ prettyText level item ++ ',' :: prettyItems level (next :: rest)

/-- Writes the fields of an object, each on its own line. -/
def prettyFields (level : Nat) : List (String × Json) → List Char
  | [] => []
  | [(name, value)] => newline level ++ quoted name ++ ": ".toList ++ prettyText level value
  | (name, value) :: next :: rest =>
    newline level ++ quoted name ++ ": ".toList ++ prettyText level value ++
      ',' :: prettyFields level (next :: rest)

end

/-- A value as text with one field or item a line. -/
def pretty (json : Json) : String := String.ofList (json.prettyText 0)

end Json

end NoteTemplate
