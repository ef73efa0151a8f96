import NoteTemplate.Template.Condition

/-!
# Arguments of functions

The source of an argument list is cut at the commas that stand outside quotes.
An argument that starts and ends with the same quote is a text; any other is a
number or a path.
-/

namespace NoteTemplate.Template

open Text (trim)

/-- One argument. -/
structure Argument where
  /-- The argument without its quotes. -/
  text : List Char
  /-- The argument was quoted. -/
  isQuoted : Bool
deriving Repr, DecidableEq

/-- Puts a character in front of the first part. -/
def pushFront (c : Char) : List (List Char) → List (List Char)
  | [] => [[c]]
  | first :: others => (c :: first) :: others

/-- Cuts a text at the commas outside quotes, given the quote that is open. -/
def cutArguments (quote : Option Char) : List Char → List (List Char)
  | [] => [[]]
  | c :: rest =>
    match quote with
    | some mark => pushFront c (cutArguments (if c = mark then none else quote) rest)
    | none =>
      if isQuote c then pushFront c (cutArguments (some c) rest)
      else if c = ',' then [] :: cutArguments none rest
      else pushFront c (cutArguments none rest)

/-- Reads one argument, without white space at its ends. -/
def Argument.ofText (text : List Char) : Argument :=
  match text with
  | mark :: rest =>
    if isQuote mark ∧ rest.getLast? = some mark then ⟨rest.dropLast, true⟩ else ⟨text, false⟩
  | [] => ⟨[], false⟩

/-- Reads an argument list. White space alone is a list of no arguments. -/
def readArguments (source : List Char) : List Argument :=
  if trim source = [] then []
  else (cutArguments none source).map fun part => Argument.ofText (trim part)

/-- The value of an argument: a text, a number, or what a path leads to. -/
def Argument.value (lookup : Lookup) (argument : Argument) : Value :=
  if argument.isQuoted then .string (String.ofList argument.text)
  else
    ((numberLiteral? argument.text).or (lookup (String.ofList argument.text))).getD .null

end NoteTemplate.Template
