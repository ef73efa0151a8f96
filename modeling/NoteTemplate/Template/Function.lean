import NoteTemplate.Template.Arguments

/-!
# Functions

The functions that a template can call. Each has an outcome for all arguments: a fault
says why a call shows nothing. One fault is none that a template recovers from: a moment
can be asked for in a form that it cannot be written in.
-/

namespace NoteTemplate.Template

open Text (trim)

/-- The names of the functions. -/
def functionNames : List String :=
  ["truncate", "date_format", "tag_list", "number_format", "conditional", "length", "default"]

/-- Why a call shows nothing. -/
inductive CallFault where
  /-- There is no function of that name. -/
  | unknown
  /-- Some arguments are missing. -/
  | tooFew (expected : Nat) (got : Nat)
  /-- A length is no count. -/
  | badLength (text : String)
  /-- A date pattern cannot be read. -/
  | badPattern (pattern : String)
  /-- A value has no number. -/
  | notNumber (text : String)
  /-- A number of places cannot be read, or is too large. -/
  | badPrecision (mode : String)
  /-- A date pattern can be read, but a moment cannot be written by it. Unlike the others,
  this ends the rendering that the call is a part of. -/
  | unwritable
deriving Repr, DecidableEq

/-- The wording of a fault. -/
def CallFault.message : CallFault → String
  | .unknown => "unknown function"
  | .tooFew expected got =>
    "expected " ++ toString expected ++ " argument(s), got " ++ toString got
  | .badLength text => "length '" ++ text ++ "' is not a non-negative integer"
  | .badPattern pattern => "invalid date pattern '" ++ pattern ++ "'"
  | .notNumber text => "'" ++ text ++ "' is not a number"
  | .badPrecision mode => "invalid precision in '" ++ mode ++ "'"
  | .unwritable => "a Display implementation returned an error unexpectedly: Error"

/-- The arguments of a call with the values that paths lead to. -/
structure Arguments where
  /-- The arguments in order. -/
  all : List Argument
  /-- The values of paths. -/
  lookup : Lookup

namespace Arguments

/-- The value of an argument; one that is missing is nothing. -/
def value (arguments : Arguments) (index : Nat) : Value :=
  match arguments.all[index]? with
  | some argument => argument.value arguments.lookup
  | none => .null

/-- An argument as it is written, without quotes; one that is missing is empty. -/
def literal (arguments : Arguments) (index : Nat) : List Char :=
  match arguments.all[index]? with
  | some argument => argument.text
  | none => []

/-- An argument as it is written, as a string. -/
def literalText (arguments : Arguments) (index : Nat) : String :=
  String.ofList (arguments.literal index)

end Arguments

/-- What replaces the part of a text that is cut off. -/
def ellipsis : String := "..."

/-- The natural number that a double equals exactly. -/
def count? (number : Float) : Option Nat :=
  match (Number.Binary64.ofFloat number).integer? with
  | some whole => if 0 ≤ whole then some whole.toNat else none
  | none => none

/-- A text, cut after a number of characters. -/
def truncate (arguments : Arguments) : Except CallFault String :=
  match (arguments.value 1).number?.bind count? with
  | none => .error (.badLength (arguments.literalText 1))
  | some limit =>
    let text := (arguments.value 0).display
    if text.length ≤ limit then .ok text
    else .ok (String.ofList (text.toList.take limit) ++ ellipsis)

/-- A moment by a pattern; any other value shows nothing. -/
def dateFormat (arguments : Arguments) : Except CallFault String :=
  match Calendar.parts? (arguments.literal 1) with
  | none => .error (.badPattern (arguments.literalText 1))
  | some parts =>
    match (arguments.value 0).moment? with
    | some time =>
      match Calendar.items? parts with
      | some items => .ok (Calendar.format items time)
      | none => .error .unwritable
    | none => .ok ""

/-- The texts that tags are made of: the items of a list, or the parts of a text
between commas. -/
def tagSources (value : Value) : List (List Char) :=
  match value with
  | .list items => items.map fun item => item.display.toList
  | .string text => Text.splitOn ',' text.toList
  | _ => []

/-- A text without white space at its ends and then without number signs at its
front. -/
def tagName (text : List Char) : List Char := (trim text).dropWhile (· = '#')

/-- Tags, each with a number sign in front; a tag without a name is left out. -/
def tagList (arguments : Arguments) : Except CallFault String :=
  let names := (tagSources (arguments.value 0)).map tagName
  let tags := (names.filter (· ≠ [])).map fun name => String.ofList ('#' :: name)
  .ok (Text.joined " " tags)

/-- Digits with a comma before every group of three, counted from the right. -/
def groupThousands : List Char → List Char
  | [] => []
  | c :: rest =>
    if rest ≠ [] ∧ rest.length % 3 = 0 then c :: ',' :: groupThousands rest
    else c :: groupThousands rest

/-- A number written in full, with its digits before the point in groups. -/
def groupedNumber (text : List Char) : List Char :=
  let (sign, unsigned) := match text with
    | '-' :: rest => (['-'], rest)
    | other => ([], other)
  match Text.cutAt? '.' unsigned with
  | some (whole, fraction) => sign ++ groupThousands whole ++ '.' :: fraction
  | none => sign ++ groupThousands unsigned

/-- A double with a fixed number of places. -/
def fixedText (places : Nat) (number : Float) : List Char :=
  match Number.Binary64.ofFloat number with
  | .finite negative mantissa exponent => Number.fixedPlaces places negative mantissa exponent
  | _ => Value.doubleText number

/-- The largest number of places that can be asked for. -/
def placesLimit : Nat := 12

/-- An amount of money in whole yen. -/
def currencyText (number : Float) : List Char :=
  (if number < 0 then ['-'] else []) ++ '¥' :: groupThousands (fixedText 0 number.abs)

/-- A number by a mode: money, a share of a hundred, a number of places, or in full
with groups. -/
def formatNumber (number : Float) (mode : List Char) : Except CallFault String :=
  if mode = "currency".toList then .ok (String.ofList (currencyText number))
  else if mode = "percent".toList then
    .ok (String.ofList (fixedText 1 (number * 100) ++ ['%']))
  else
    match Text.dropFront? "decimal_".toList mode with
    | some digits =>
      match (Number.count? digits).filter (· ≤ placesLimit) with
      | some places => .ok (String.ofList (fixedText places number))
      | none => .error (.badPrecision (String.ofList mode))
    | none => .ok (String.ofList (groupedNumber (Value.numberText number)))

/-- Whether a value without a number is passed over in silence. -/
def isVoid (value : Value) : Bool := value.isNull || (value.text?.any Text.isBlankText)

/-- A number by a mode. -/
def numberFormat (arguments : Arguments) : Except CallFault String :=
  let value := arguments.value 0
  match value.number? with
  | some number => formatNumber number (arguments.literal 1)
  | none => if isVoid value then .ok "" else .error (.notNumber value.display)

/-- The second or the third argument as it is written, by the truth of the first. -/
def conditional (arguments : Arguments) : Except CallFault String :=
  .ok (arguments.literalText (if (arguments.value 0).isTruthy then 1 else 2))

/-- The number of items, fields or characters of a value. -/
def lengthText (arguments : Arguments) : Except CallFault String :=
  .ok (String.ofList (Number.digits ((arguments.value 0).size?.getD 0)))

/-- The text of a value, or the second argument where that is blank. -/
def defaultText (arguments : Arguments) : Except CallFault String :=
  let text := (arguments.value 0).display
  if Text.isBlankText text then .ok (arguments.literalText 1) else .ok text

/-- A function with the number of arguments that it needs. -/
def function? (name : String) : Option (Nat × (Arguments → Except CallFault String)) :=
  match name with
  | "truncate" => some (2, truncate)
  | "date_format" => some (2, dateFormat)
  | "tag_list" => some (1, tagList)
  | "number_format" => some (1, numberFormat)
  | "conditional" => some (2, conditional)
  | "length" => some (1, lengthText)
  | "default" => some (2, defaultText)
  | _ => none

/-- Calls a function by its name with the source of its arguments. -/
def call (lookup : Lookup) (name source : String) : Except CallFault String :=
  match function? name with
  | none => .error .unknown
  | some (needed, function) =>
    let arguments : Arguments := ⟨readArguments source.toList, lookup⟩
    if arguments.all.length < needed then .error (.tooFew needed arguments.all.length)
    else function arguments

/-- What a call of a function comes to, given its arguments. -/
def callOn (lookup : Lookup) (name : String) (all : List Argument) : Except CallFault String :=
  match function? name with
  | none => .error .unknown
  | some (needed, function) =>
    if all.length < needed then .error (.tooFew needed all.length) else function ⟨all, lookup⟩

/-- A function is called with the arguments that are read. -/
theorem call_eq_callOn (lookup : Lookup) (name source : String) :
    call lookup name source = callOn lookup name (readArguments source.toList) :=
  rfl

end NoteTemplate.Template
