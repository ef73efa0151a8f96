import NoteTemplate.Toml.Scalar

/-!
# Reading configuration files

A configuration file consists of lines. A line assigns a value to a path, or it is a
heading, which names the table that the lines below it assign to. `Toml.read?` gives the
fields of a whole file, or nothing if it is not well formed.
-/

namespace NoteTemplate.Toml

/-- Drops white space, line breaks and comments from the front of a text. -/
def dropGaps? (inComment : Bool) : List Char → Option (List Char)
  | [] => some []
  | '\r' :: '\n' :: rest => dropGaps? false rest
  | c :: rest =>
    if c = '\n' then dropGaps? false rest
    else if inComment then if isPlain c then dropGaps? true rest else none
    else if isGap c then dropGaps? false rest
    else if c = '#' then dropGaps? true rest
    else some (c :: rest)

/-- A character of names without quotes. -/
def isNameCharacter (c : Char) : Bool := c.isAlphanum || c = '-' || c = '_'

/-- Reads one name of a path. -/
def readName : List Char → Option (String × List Char)
  | '"' :: rest => (readDouble [] rest).map fun (name, rest) => (String.ofList name, rest)
  | '\'' :: rest => (readSingle [] rest).map fun (name, rest) => (String.ofList name, rest)
  | text =>
    let name := text.takeWhile isNameCharacter
    if name.isEmpty then none else some (String.ofList name, text.dropWhile isNameCharacter)

/-- Reads a path of names with dots between them, in at most the given number of steps,
together with the white space around it. -/
def readPath : (steps : Nat) → List Char → Option (List String × List Char)
  | 0, _ => none
  | steps + 1, text => do
    let (name, text) ← readName (text.dropWhile isGap)
    match text.dropWhile isGap with
    | '.' :: rest => do
      let (path, rest) ← readPath steps rest
      return (name :: path, rest)
    | rest => return ([name], rest)

/-- Reads a path with its value. -/
def readPair (readValue : List Char → Option (Toml × List Char)) (text : List Char) :
    Option ((List String × Toml) × List Char) := do
  let (path, text) ← readPath text.length text
  let text ← Calendar.takeOne? ['='] text
  let (value, text) ← readValue (text.dropWhile isGap)
  return ((path, value), text)

/-- Reads the items of a list behind its bracket, in at most the given number of steps. -/
def readItems (readValue : List Char → Option (Toml × List Char)) :
    (steps : Nat) → (reversed : List Toml) → List Char → Option (Toml × List Char)
  | 0, _, _ => none
  | steps + 1, reversed, text => do
    match ← dropGaps? false text with
    | ']' :: rest => return (.array false reversed.reverse, rest)
    | text => do
      let (item, text) ← readValue text
      match ← dropGaps? false text with
      | ',' :: rest => readItems readValue steps (item :: reversed) rest
      | ']' :: rest => return (.array false (item :: reversed).reverse, rest)
      | _ => none

/-- Reads the pairs of a table behind its brace, in at most the given number of steps. -/
def readPairs (readValue : List Char → Option (Toml × List Char)) :
    (steps : Nat) → (fields : Fields Toml) → List Char → Option (Toml × List Char)
  | 0, _, _ => none
  | steps + 1, fields, text => do
    match ← dropGaps? false text with
    | '\x7d' :: rest => return (.table .closed fields, rest)
    | text => do
      let ((path, value), text) ← readPair readValue text
      let fields ← assign path value fields
      match ← dropGaps? false text with
      | ',' :: rest => readPairs readValue steps fields rest
      | '\x7d' :: rest => return (.table .closed fields, rest)
      | _ => none

/-- Values can be nested this deep. -/
def depthLimit : Nat := 80

/-- Reads a value with at most the given number of values around each other. -/
def readValue : (levels : Nat) → List Char → Option (Toml × List Char)
  | levels + 1, '[' :: rest => readItems (readValue levels) (rest.length + 1) [] rest
  | levels + 1, '\x7b' :: rest => readPairs (readValue levels) (rest.length + 1) [] rest
  | _, text => readScalar text

/-- Reads the end of a line, which may have a comment. -/
def readLineEnd (text : List Char) : Option (List Char) :=
  let text := text.dropWhile isGap
  let text := if text.head? = some '#' then text.dropWhile isPlain else text
  match text with
  | [] => some []
  | '\n' :: rest | '\r' :: '\n' :: rest => some rest
  | _ => none

/-- A file that is being read: what it holds, and the table that is assigned to. -/
structure Reading where
  /-- The fields of the whole file. -/
  fields : Fields Toml
  /-- The path of the last heading. -/
  table : List String

/-- Reads a heading behind its brackets. -/
def readHeading (isItem : Bool) (reading : Reading) (text : List Char) :
    Option (Reading × List Char) := do
  let (path, text) ← readPath text.length text
  let text ← Calendar.takeOne? [']'] text
  let text ← if isItem then Calendar.takeOne? [']'] text else some text
  return (⟨← start isItem path reading.fields, path⟩, text)

/-- Reads an assignment. -/
def readAssignment (reading : Reading) (text : List Char) : Option (Reading × List Char) := do
  let ((path, value), text) ← readPair (readValue depthLimit) text
  let fields ← within .implied (assign path value) reading.table reading.fields
  return (⟨fields, reading.table⟩, text)

/-- Reads what a line holds. -/
def readLine (reading : Reading) (text : List Char) : Option (Reading × List Char) :=
  match text with
  | '[' :: '[' :: rest => readHeading true reading rest
  | '[' :: rest => readHeading false reading rest
  | _ => readAssignment reading text

/-- Reads lines in at most the given number of steps. -/
def readLines : (steps : Nat) → Reading → List Char → Option (Fields Toml)
  | 0, _, _ => none
  | steps + 1, reading, text => do
    match ← dropGaps? false text with
    | [] => return reading.fields
    | text => do
      let (reading, text) ← readLine reading text
      readLines steps reading (← readLineEnd text)

/-- A text without the mark that tells the order of bytes. -/
def dropMark : List Char → List Char
  | '\uFEFF' :: rest => rest
  | text => text

/-- The fields of a configuration file. -/
def read? (text : String) : Option (Fields Toml) :=
  let text := dropMark text.toList
  readLines (text.length + 1) ⟨[], []⟩ text

end NoteTemplate.Toml
