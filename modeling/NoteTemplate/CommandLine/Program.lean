import NoteTemplate.CommandLine.Help
import NoteTemplate.CommandLine.Host
import NoteTemplate.Document.Json
import NoteTemplate.Engine
import NoteTemplate.Json.Reader
import NoteTemplate.Store.BuiltIn
import NoteTemplate.Store.Folder
import NoteTemplate.Validation

/-!
# The program

A run of the program follows its command line and ends with a code and what it printed to
both streams. Rendering and checking only look at the templates; the only command that
changes anything stores the built-in templates.
-/

namespace NoteTemplate.CommandLine

open Calendar (Moment)

/-- What a run of the program comes to. -/
structure Outcome where
  /-- The code; zero for success. -/
  code : Nat := 0
  /-- What was printed to the standard output. -/
  output : String := ""
  /-- What was printed to the standard error stream. -/
  errors : String := ""
deriving Repr, DecidableEq

namespace Outcome

/-- A line. -/
def line (text : String) : String := text ++ "\n"

/-- A run that fails with a line on the standard error stream. -/
def failure (text : String) : Outcome := { code := 1, errors := line text }

/-- One run after another, which fails if one of them does. -/
def append (first second : Outcome) : Outcome where
  code := max first.code second.code
  output := first.output ++ second.output
  errors := first.errors ++ second.errors

end Outcome

/-- Why a command cannot be followed. -/
inductive Obstacle where
  /-- An operation of the library fails. -/
  | failed (failure : Failure)
  /-- A file of values cannot be read. -/
  | unreadable (path : String) (fault : FileFault)
  /-- A file of values is no JSON. -/
  | malformed (misread : Json.Misread)
  /-- A file of values holds no object. -/
  | notObject (path : String)
  /-- A binding has no equals sign. -/
  | notBinding (text : String)
  /-- A binding has no name. -/
  | emptyName (text : String)

/-- The wording of an obstacle. -/
def Obstacle.message : Obstacle → String
  | .failed failure => failure.message
  | .unreadable path fault => "cannot read " ++ path ++ ": " ++ fault.message
  | .malformed misread => misread.message
  | .notObject path => path ++ " must contain a JSON object"
  | .notBinding text => "expected KEY=VALUE, got '" ++ text ++ "'"
  | .emptyName text => "empty key in '" ++ text ++ "'"

/-- A run that meets an obstacle. -/
def Obstacle.outcome (obstacle : Obstacle) : Outcome := .failure ("Error: " ++ obstacle.message)

/-- The code of a run that is aborted, as a shell tells it. -/
def abortCode : Nat := 134

/-- A run in which an operation of the library fails. An aborted one ends the run there and
then. What is printed of it names places in the code, and is left out. -/
def failedOutcome (failure : Failure) : Outcome :=
  match failure with
  | .aborted => { code := abortCode }
  | failure => (Obstacle.failed failure).outcome

/-! ## Rendering -/

/-- The name and the value of a binding. The value is read as JSON if it is any. -/
def readBinding (text : String) : Except Obstacle (String × Value) :=
  match Text.cutAt? '=' text.toList with
  | none => .error (.notBinding text)
  | some (name, raw) =>
    let name := Text.trim name
    let raw := String.ofList raw
    if name.isEmpty then .error (.emptyName text)
    else
      let value := match Json.parse raw with
        | .ok json => Value.ofJson json
        | .error _ => .string raw
      .ok (String.ofList name, value)

/-- A context with bindings added in order. -/
def addBindings (context : Context) (bindings : List String) : Except Obstacle Context :=
  bindings.foldlM
    (fun context text => (readBinding text).map fun (name, value) => context.insert name value)
    context

/-- A context with the values of a file added. -/
def addValues (context : Context) (path text : String) : Except Obstacle Context :=
  match Json.parse text with
  | .error misread => .error (.malformed misread)
  | .ok (.object fields) => .ok (context.extend (Context.ofJson (.object fields)))
  | .ok _ => .error (.notObject path)

/-- A document as it is printed, with its warnings on the standard error stream. -/
def documentOutcome (document : Document) : Outcome where
  output := document.text
  errors := String.join (document.warnings.map fun warning =>
    Outcome.line ("warning: " ++ warning.display))

/-- A note as it is printed, with its path on the standard error stream. -/
def noteOutcome (note : Note) : Outcome where
  output := note.markdown
  errors := Outcome.line note.path

/-- A run that asks for a template that does not exist. -/
def missingOutcome (name : String) : Outcome := .failure ("Template not found: " ++ name)

/-- Prints what a template gives in one of the forms. -/
def renderOutcome (shelf : Shelf) (configuration : Configuration) (now : Moment) (name : String)
    (context : Context) (form : Form) : Outcome :=
  let cache := Cache.ofCapacity configuration.cacheCapacity
  let limit := configuration.includeLimit
  let outcome {α : Type} (print : α → Outcome) (action : Loading (Option α)) : Outcome :=
    match (action.run cache).1 with
    | .ok (some result) => print result
    | .ok none => missingOutcome name
    | .error failure => failedOutcome failure
  match form with
  | .text => outcome documentOutcome (shelf.render limit name context)
  | .json =>
    outcome (fun document => { output := Outcome.line document.toJson.pretty })
      (shelf.render limit name context)
  | .note => outcome noteOutcome (shelf.assemble limit name context now)

/-! ## Checking -/

/-- A finding as it is printed. -/
def findingLine (finding : Finding) : String :=
  Outcome.line ((if finding.isError then "  ✗ " else "  ! ") ++ finding.display)

/-- The report on a template as it is printed. -/
def reportOutcome (name : String) (report : Report) : Outcome where
  code := if report.isValid then 0 else 1
  output :=
    Outcome.line (name ++ ": " ++ if report.isValid then "ok" else "INVALID") ++
      String.join (report.findings.map findingLine)

/-- Checks templates one after another up to the first failure. -/
def validateOutcome (shelf : Shelf) (limit : Nat) (cache : Cache) : List String → Outcome
  | [] => {}
  | name :: rest =>
    match (shelf.validate limit name).run cache with
    | (.error failure, _) => failedOutcome failure
    | (.ok none, cache) => (missingOutcome name).append (validateOutcome shelf limit cache rest)
    | (.ok (some report), cache) =>
      (reportOutcome name report).append (validateOutcome shelf limit cache rest)

/-! ## Listing and installing -/

/-- Prints the names of the templates. -/
def listOutcome (names : List String) : Outcome where
  output := String.join (names.map Outcome.line)
  errors :=
    if names.isEmpty then
      Outcome.line "No templates found. Run \x60vaultscribe init\x60 to install the defaults."
    else ""

/-- Prints the names of the templates that were stored in a folder. -/
def installOutcome (folder : String) (names : List String) : Outcome where
  output :=
    if names.isEmpty then Outcome.line ("All default templates already present in " ++ folder)
    else
      let count := toString names.length
      Outcome.line ("Installed " ++ count ++ " template(s) into " ++ folder ++ ":") ++
        String.join (names.map fun name => Outcome.line ("  " ++ name))

/-- Goes on with a result, if there is one. -/
def withResult {α : Type} (print : α → Outcome) : Except Failure α → Outcome
  | .ok result => print result
  | .error failure => failedOutcome failure

/-! ## Running -/

section Running

variable {m : Type → Type} [Monad m] [Host m]

/-- The context that a template is rendered in: the names for an empty message, the values
of a file and bindings. -/
def commandContext (now : Moment) (path : Option String) (bindings : List String) :
    m (Except Obstacle Context) := do
  let start := noteContext now {} none .empty
  let filled ← match path with
    | none => pure (.ok start)
    | some path =>
      match ← Files.text path with
      | .ok text => pure (addValues start path text)
      | .error fault => pure (.error (.unreadable path fault))
  return filled.bind (addBindings · bindings)

/-- Follows a command. -/
def runCommand (configuration : Configuration) (command : Command) : m Outcome := do
  let store : FolderStore := ⟨configuration.templatesFolder⟩
  match command with
  | .render name path bindings form =>
    let now ← Host.now
    match ← commandContext now path bindings with
    | .error obstacle => return obstacle.outcome
    | .ok context =>
      return renderOutcome (← store.content).shelf configuration now name context form
  | .validate name =>
    let shelf := (← store.content).shelf
    let names := match name with
      | some name => .ok [name]
      | none => shelf.names
    let cache := Cache.ofCapacity configuration.cacheCapacity
    return withResult (validateOutcome shelf configuration.includeLimit cache) names
  | .list => return withResult listOutcome (← store.content).shelf.names
  | .install =>
    let installed ← (BuiltIn.install : ReaderT FolderStore m _).run store
    return withResult (installOutcome configuration.templatesFolder) installed

/-- Makes the file that the log is written to, with the folders around it. -/
def openLog (path : String) : m (Except Failure Unit) := do
  let around ← match Path.parent? path with
    | some around => Files.makeFolders around
    | none => pure (.ok ())
  match around with
  | .error fault => return .error (.failed .createLogFolder fault.message)
  | .ok () =>
    return (← Files.touch path).mapError fun fault =>
      .failed .openLogFile (path ++ ": " ++ fault.message)

/-- Runs a command with a configuration file, if one is named. -/
def runConfigured (configurationFile : Option String) (command : Command) : m Outcome := do
  match ← loadConfiguration configurationFile with
  | .error failure => return .failure ("Failed to load configuration: " ++ failure.message)
  | .ok configuration =>
    let opened ← match configuration.log.file with
      | some path => openLog path
      | none => pure (.ok ())
    match opened with
    | .error failure => return .failure ("Failed to initialize logging: " ++ failure.message)
    | .ok () => runCommand configuration command

/-- Runs the program with the words of its command line. -/
def run (words : List String) : m Outcome := do
  let configurationFile ← Host.setting? "VAULTSCRIBE_CONFIG"
  let help (topic : Option Topic) := helpText topic (configurationFile.getD "")
  match Request.ofWords words configurationFile with
  | .run file command => runConfigured file command
  | .help topic => return { output := help topic }
  | .version => return { output := versionText }
  | .nothing => return { code := 2, errors := help none }
  | .misuse => return { code := 2, errors := Outcome.line (usageLine none) }

end Running

end NoteTemplate.CommandLine
