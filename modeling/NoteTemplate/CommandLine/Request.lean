/-!
# Requests

The words of a command line ask for a command with its options. Some options take a value,
which is attached to them or stands in the next word; options of one letter can share a
word. Words that ask for help or for the version are followed as soon as they are met, and
a command line that makes no sense is refused at the first word that shows it.
-/

namespace NoteTemplate.CommandLine

/-- What is printed of a rendered template. -/
inductive Form where
  /-- The text. -/
  | text
  /-- The document as JSON. -/
  | json
  /-- The note. -/
  | note
deriving Repr, DecidableEq

/-- A command. -/
inductive Command where
  /-- Renders a template with the values of a file and of bindings. -/
  | render (name : String) (contextFile : Option String) (bindings : List String) (form : Form)
  /-- Checks a template, or all of them. -/
  | validate (name : Option String)
  /-- Lists the templates. -/
  | list
  /-- Stores the built-in templates. -/
  | install
deriving Repr, DecidableEq

/-- What the first word that is no option stands for. -/
inductive Topic where
  | render
  | validate
  | list
  | install
  | help
deriving Repr, DecidableEq

namespace Topic

/-- All topics. -/
def all : List Topic := [.render, .validate, .list, .install, .help]

/-- The word for a topic. -/
def word : Topic → String
  | .render => "render"
  | .validate => "validate"
  | .list => "list"
  | .install => "init"
  | .help => "help"

/-- The topic that a word stands for. -/
def ofWord? (word : String) : Option Topic := all.find? (·.word = word)

/-- How many words can follow that are no options. -/
def plainLimit : Topic → Nat
  | .render | .validate | .help => 1
  | .list | .install => 0

end Topic

/-- What the words ask for. -/
inductive Request where
  /-- To run a command with a configuration file, if one is named. -/
  | run (configurationFile : Option String) (command : Command)
  /-- To explain a topic, or the program. -/
  | help (topic : Option Topic)
  /-- To tell the version. -/
  | version
  /-- Nothing, without any words. -/
  | nothing
  /-- Something that makes no sense. -/
  | misuse
deriving Repr, DecidableEq

/-- An option. -/
structure Switch where
  /-- Its name, which stands behind two hyphens. -/
  name : String
  /-- The letter for it, which stands behind one hyphen. -/
  letter : Option Char := none
  /-- A value belongs to it. -/
  takesValue : Bool := false
  /-- It can be given more than once. -/
  isRepeatable : Bool := false
  /-- Its value is a path and so cannot be empty. -/
  isPath : Bool := false
deriving Repr, DecidableEq

/-- The options that can stand on both sides of the first other word. -/
def commonSwitches : List Switch :=
  [{ name := "verbose", letter := some 'v' },
    { name := "config", letter := some 'c', takesValue := true, isPath := true },
    { name := "help", letter := some 'h' }]

/-- The options in front of the topic, or those behind it. -/
def switchesFor : Option Topic → List Switch
  | none => commonSwitches ++ [{ name := "version", letter := some 'V' }]
  | some .render =>
    commonSwitches ++
      [{ name := "context", takesValue := true, isPath := true },
        { name := "var", takesValue := true, isRepeatable := true },
        { name := "json" }, { name := "note" }]
  | some .help => []
  | some _ => commonSwitches

/-- What was read of a part of the command line. -/
structure Words where
  /-- The options with their values, the last one first. -/
  given : List (String × String) := []
  /-- The other words, the last one first. -/
  plain : List String := []
deriving Repr, DecidableEq

namespace Words

/-- Whether an option is given. -/
def has (words : Words) (name : String) : Bool := words.given.any (·.1 = name)

/-- The value of an option that is given. -/
def value? (words : Words) (name : String) : Option String := words.given.lookup name

/-- The values of an option in order. -/
def values (words : Words) (name : String) : List String :=
  ((words.given.filter (·.1 = name)).map Prod.snd).reverse

end Words

/-- What was read of a command line. -/
structure Reading where
  /-- What is in front of the topic. -/
  front : Words := {}
  /-- The topic. -/
  topic : Option Topic := none
  /-- What is behind the topic. -/
  behind : Words := {}
  /-- The option whose value comes next. -/
  awaited : Option Switch := none
  /-- No more words are options. -/
  onlyPlain : Bool := false

namespace Reading

/-- The words on the side of the topic that is being read. -/
def current (reading : Reading) : Words :=
  if reading.topic.isSome then reading.behind else reading.front

/-- Replaces the words on the side of the topic that is being read. -/
def withCurrent (reading : Reading) (words : Words) : Reading :=
  if reading.topic.isSome then { reading with behind := words } else { reading with front := words }

/-- The options that can be given now. -/
def switches (reading : Reading) : List Switch := switchesFor reading.topic

/-- Adds an option with its value. -/
def give (reading : Reading) (switch : Switch) (value : String) : Except Request Reading :=
  let words := reading.current
  if switch.name = "help" then .error (.help reading.topic)
  else if switch.name = "version" then .error .version
  else if (words.has switch.name && !switch.isRepeatable) || (switch.isPath && value.isEmpty) then
    .error .misuse
  else .ok (reading.withCurrent { words with given := (switch.name, value) :: words.given })

/-- Reads an option behind two hyphens. -/
def readLong (reading : Reading) (body : List Char) : Except Request Reading :=
  let name := String.ofList (body.takeWhile (· ≠ '='))
  match reading.switches.find? (·.name = name), body.dropWhile (· ≠ '=') with
  | none, _ => .error .misuse
  | some switch, '=' :: value =>
    if switch.takesValue then reading.give switch (String.ofList value) else .error .misuse
  | some switch, _ =>
    if switch.takesValue then .ok { reading with awaited := some switch }
    else reading.give switch ""

/-- Reads options of one letter behind a hyphen. What follows the letter of an option with a
value is the value. -/
def readLetters (reading : Reading) : List Char → Except Request Reading
  | [] => .ok reading
  | letter :: rest =>
    match reading.switches.find? (·.letter = some letter) with
    | none => .error .misuse
    | some switch =>
      if switch.takesValue then
        match rest with
        | [] => .ok { reading with awaited := some switch }
        | '=' :: value | value => reading.give switch (String.ofList value)
      else
        match reading.give switch "" with
        | .ok reading => readLetters reading rest
        | .error request => .error request

/-- Reads a word that is no option. -/
def readPlain (reading : Reading) (word : String) : Except Request Reading :=
  match reading.topic with
  | none =>
    match (Topic.ofWord? word).filter fun _ => !reading.onlyPlain with
    | some topic => .ok { reading with topic := topic }
    | none => .error .misuse
  | some topic =>
    let words := reading.behind
    if words.plain.length < topic.plainLimit then
      .ok { reading with behind := { words with plain := word :: words.plain } }
    else .error .misuse

/-- Reads a word. -/
def readWord (reading : Reading) (word : String) : Except Request Reading :=
  match reading.awaited, reading.onlyPlain, word.toList with
  | some _, _, '-' :: _ :: _ => .error .misuse
  | some switch, _, _ => { reading with awaited := none }.give switch word
  | none, false, ['-', '-'] => .ok { reading with onlyPlain := true }
  | none, false, '-' :: '-' :: body => reading.readLong body
  | none, false, '-' :: letter :: letters => reading.readLetters (letter :: letters)
  | none, _, _ => reading.readPlain word

/-- What is asked for when rendering. Two of the options exclude each other. -/
def renderRequest? (words : Words) : Option Command := do
  let name ← words.plain.head?
  let form ← match words.has "json", words.has "note" with
    | true, true => none
    | true, false => some .json
    | false, true => some .note
    | false, false => some .text
  return .render name (words.value? "context") (words.values "var") form

/-- What all words together ask for. A configuration file that is named among them comes
before one that is named in the environment, and one behind the topic before one in front
of it. -/
def request (reading : Reading) (configurationFile : Option String) : Request :=
  let file := ((reading.behind.value? "config").or (reading.front.value? "config")).or
    configurationFile
  let plain := reading.behind.plain
  if reading.awaited.isSome ∨ configurationFile = some "" then .misuse
  else
    match reading.topic with
    | none => .misuse
    | some .render =>
      match renderRequest? reading.behind with
      | some command => .run file command
      | none => .misuse
    | some .validate => .run file (.validate plain.head?)
    | some .list => .run file .list
    | some .install => .run file .install
    | some .help =>
      match plain.map Topic.ofWord? with
      | [] | [some .help] => .help none
      | some topic :: _ => .help (some topic)
      | none :: _ => .misuse

end Reading

/-- What a command line asks for. -/
def Request.ofWords (words : List String) (configurationFile : Option String) : Request :=
  if words.isEmpty then .nothing
  else
    match words.foldlM Reading.readWord {} with
    | .ok reading => reading.request configurationFile
    | .error request => request

end NoteTemplate.CommandLine
