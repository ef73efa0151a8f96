import NoteTemplate.Fields
import NoteTemplate.Text.Blank
import NoteTemplate.Text.Character
import NoteTemplate.Text.Pieces

/-!
# Files of variables

A file of variables assigns texts to names, one on a line. A line goes on behind its end as
long as a quote is open. Between single quotes all characters stand for themselves; anywhere
else a dollar sign stands in front of the name of a variable, and a backslash in front of a
character that would mean something else. Reading ends at the first line that is faulty, and
what was assigned before counts.
-/

namespace NoteTemplate.CommandLine

/-! ## Lines -/

/-- Where in a line a character stands. -/
inductive Spot where
  /-- Outside of quotes. -/
  | outside
  /-- Outside of quotes, behind white space. -/
  | apart
  /-- Outside of quotes, behind a backslash. -/
  | escaped
  /-- Behind an opening quote. -/
  | within (quote : Char)
  /-- Behind an opening quote and a backslash. -/
  | escapedWithin (quote : Char)
  /-- In a comment. -/
  | comment
deriving Repr, DecidableEq

/-- Where the character behind a character outside of quotes stands. -/
def Spot.behindOutside (c : Char) : Spot :=
  if c = '\\' then .escaped
  else if c = '"' ∨ c = '\'' then .within c
  else .outside

/-- Where the character behind a given one stands. A comment starts behind white space. -/
def Spot.behind (c : Char) : Spot → Spot
  | .outside =>
    if Text.isBlank c ∧ c ≠ '\n' ∧ c ≠ '\r' then .apart else .behindOutside c
  | .apart => if c = '#' then .comment else .behindOutside c
  | .escaped => .outside
  | .within quote =>
    if c = '\\' then .escapedWithin quote else if c = quote then .outside else .within quote
  | .escapedWithin quote => .within quote
  | .comment => .comment

/-- Reads a line up to its end or to a comment: the spot reached and the text read. -/
def readLine (spot : Spot) (reversed : List Char) : List Char → Spot × List Char
  | [] => (spot, reversed.reverse)
  | c :: rest =>
    match spot.behind c with
    | .comment => (.comment, reversed.reverse)
    | next => readLine next (c :: reversed) rest

/-- The lines of a text, put together where a quote or white space is open at the end. Lines
without an end are dropped. -/
def joinLines (spot : Spot) (before : List Char) : List (List Char) → List (List Char)
  | [] => []
  | line :: rest =>
    if (Text.trimStart (before ++ line)).head? = some '#' then joinLines .outside [] rest
    else
      match readLine spot [] line with
      | (.outside, text) | (.comment, text) => (before ++ text) :: joinLines .outside [] rest
      | (spot, text) => joinLines spot (before ++ text) rest

/-! ## Values -/

/-- A part of a value. -/
inductive Segment where
  /-- A character. -/
  | letter (c : Char)
  /-- The value of a variable. -/
  | variableOf (name : String)
deriving Repr, DecidableEq

/-- How the next character of a value is meant. -/
inductive Mode where
  /-- Outside of quotes. -/
  | plain
  /-- Between double quotes. -/
  | double
  /-- Between single quotes. -/
  | single
  /-- Behind a backslash. -/
  | escaped (outer : Mode)
  /-- In the name of a variable. -/
  | name (outer : Mode) (reversed : List Char)
  /-- In the name of a variable between braces. -/
  | braced (outer : Mode) (reversed : List Char)
  /-- Behind the value. -/
  | behind
  /-- In the comment behind the value. -/
  | comment
deriving Repr, DecidableEq

/-- A variable whose name was read in reverse. -/
def Segment.ofReversed (reversed : List Char) : Segment :=
  .variableOf (String.ofList reversed.reverse)

/-- The character that stands behind a backslash for something. -/
def unescaped? (c : Char) : Option Char :=
  if c = 'n' then some '\n' else if c ∈ ['\\', '\'', '"', '$', ' '] then some c else none

/-- Reads a character that is no part of the name of a variable. -/
def Mode.stepOutside (c : Char) : Mode → Option (Mode × List Segment)
  | .behind =>
    if c = ' ' ∨ c = '\t' then some (.behind, [])
    else if c = '#' then some (.comment, [])
    else none
  | .comment => some (.comment, [])
  | .escaped outer => (unescaped? c).map fun c => (outer, [.letter c])
  | .single => some (if c = '\'' then (.plain, []) else (.single, [.letter c]))
  | .double =>
    some (
      if c = '$' then (.name .double [], [])
      else if c = '"' then (.plain, [])
      else if c = '\\' then (.escaped .double, [])
      else (.double, [.letter c]))
  | mode =>
    some (
      if c = '$' then (.name mode [], [])
      else if c = '\'' then (.single, [])
      else if c = '"' then (.double, [])
      else if c = '\\' then (.escaped mode, [])
      else if c = ' ' ∨ c = '\t' then (.behind, [])
      else (mode, [.letter c]))

/-- Reads a character of a value. The character that ends a name without braces stands for
itself, unless it starts the next name. -/
def Mode.step (c : Char) : Mode → Option (Mode × List Segment)
  | .name outer reversed =>
    some (
      if Text.isAlphanumeric c then (.name outer (c :: reversed), [])
      else if c = '\x7b' ∧ reversed.isEmpty then (.braced outer [], [])
      else if c = '$' then (.name outer [], [.ofReversed reversed])
      else (outer, [.ofReversed reversed, .letter c]))
  | .braced outer reversed =>
    some (
      if c = '\x7d' then (outer, [.ofReversed reversed])
      else (.braced outer (c :: reversed), []))
  | mode => mode.stepOutside c

/-- What is left to add at the end of a value, if it can end in a mode. -/
def Mode.finish : Mode → Option (List Segment)
  | .plain | .behind | .comment | .escaped .plain => some []
  | .name .plain reversed => some [.ofReversed reversed]
  | _ => none

/-- Reads a value. -/
def readValue (mode : Mode) (segments : List Segment) : List Char → Option (List Segment)
  | [] => mode.finish.map (segments ++ ·)
  | c :: rest =>
    match mode.step c with
    | some (next, more) => readValue next (segments ++ more) rest
    | none => none

/-! ## Assignments -/

/-- An assignment to a variable. -/
structure Assignment where
  /-- The name. -/
  name : String
  /-- The value. -/
  value : List Segment
deriving Repr, DecidableEq

/-- A character of names behind the first one. -/
def isVariableCharacter (c : Char) : Bool := c.isAlphanum || c = '_' || c = '.'

/-- Reads a name and the white space behind it. -/
def readVariableName (text : List Char) : Option (String × List Char) :=
  if text.head?.any Text.isNameStart then
    some (String.ofList (text.takeWhile isVariableCharacter),
      Text.trimStart (text.dropWhile isVariableCharacter))
  else none

/-- Reads an equals sign and the value behind it. -/
def readAssigned (name : String) : List Char → Option Assignment
  | '=' :: text =>
    match Text.trimStart text with
    | [] | '#' :: _ => some ⟨name, []⟩
    | value => (readValue .plain [] value).map fun segments => ⟨name, segments⟩
  | _ => none

/-- Reads a line that is not empty. The word that marks variables for other programs can
stand in front of the name. -/
def readAssignment (line : List Char) : Option Assignment := do
  let (name, text) ← readVariableName line
  match text with
  | '=' :: _ => readAssigned name text
  | _ =>
    if name = "export" then
      let (name, text) ← readVariableName text
      readAssigned name text
    else none

/-- The assignments of lines up to the first faulty one. -/
def assignmentsOfLines : List (List Char) → List Assignment
  | [] => []
  | line :: rest =>
    match Text.trim line with
    | [] | '#' :: _ => assignmentsOfLines rest
    | line =>
      match readAssignment line with
      | some assignment => assignment :: assignmentsOfLines rest
      | none => []

/-- The assignments of a file. -/
def assignments (text : String) : List Assignment :=
  let text := match text.toList with
    | '\uFEFF' :: rest => rest
    | text => text
  assignmentsOfLines (joinLines .outside [] (Text.lines text))

end NoteTemplate.CommandLine
