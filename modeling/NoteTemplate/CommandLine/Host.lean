import NoteTemplate.CommandLine.Variables
import NoteTemplate.Configuration
import NoteTemplate.Files.Basic

/-!
# The surroundings of the program

The program finds its settings in its surroundings: in the variables of its environment, in
a file of further variables, and in a configuration file. What the environment sets is not
replaced by the file of variables.
-/

namespace NoteTemplate.CommandLine

open Calendar (Moment)

/-- The surroundings of a program. -/
class Host (m : Type → Type) extends Files m where
  /-- The value of a variable of the environment. -/
  setting? (name : String) : m (Option String)
  /-- The path of the current folder from the root on. -/
  currentFolder : m String
  /-- The time. -/
  now : m Moment

variable {m : Type → Type} [Monad m] [Host m]

/-- The value of a variable, given what a file of variables adds to the environment. -/
def valueOf? (added : Fields String) (name : String) : m (Option String) := do
  return (← Host.setting? name).or (Fields.find? name added)

/-- The text of a value. A variable that has no value stands for nothing. -/
def expand (added : Fields String) : List Segment → m (List Char)
  | [] => return []
  | .letter c :: rest => return c :: (← expand added rest)
  | .variableOf name :: rest => do
    let value ← valueOf? added name
    return (value.getD "").toList ++ (← expand added rest)

/-- Adds what assignments set that is not set yet. -/
def addAssignments (added : Fields String) : List Assignment → m (Fields String)
  | [] => return added
  | assignment :: rest => do
    if (← valueOf? added assignment.name).isSome then addAssignments added rest
    else
      let value ← expand added assignment.value
      addAssignments (Fields.insert assignment.name (String.ofList value) added) rest

/-- The path of the file of a name in a folder, or else in the nearest one around it, at
most the given number of levels up. -/
def nearestFile? (name : String) : (levels : Nat) → (folder : String) → m (Option String)
  | 0, _ => return none
  | levels + 1, folder => do
    let path := Path.join folder name
    match ← Files.status path, Path.parent? folder with
    | .ok (.file ..), _ => return some path
    | .ok _, some around | .error .missing, some around => nearestFile? name levels around
    | _, _ => return none

/-- The name of files of variables. -/
def variablesFileName : String := ".env"

/-- The variables that the nearest file of variables adds to the environment. -/
def addedVariables : m (Fields String) := do
  let folder ← Host.currentFolder
  match ← nearestFile? variablesFileName ((Path.parts folder).length + 1) folder with
  | none => return []
  | some path =>
    match ← Files.text path with
    | .ok text => addAssignments [] (assignments text)
    | .error _ => return []

/-- The settings of a configuration file. -/
def readConfiguration (path : String) : m (Except Failure Configuration) := do
  match ← Files.text path with
  | .ok text => return Configuration.read text
  | .error fault => return .error (.failed .readConfigFile fault.message)

/-- The path of the configuration file of the user, if it can be told. -/
def userConfigurationPath? (added : Fields String) : m (Option String) := do
  let folder := (← valueOf? added "XDG_CONFIG_HOME").filter Path.isRooted
  let home := (← valueOf? added "HOME").filter (!·.isEmpty)
  let base := folder.or (home.map (Path.join · ".config"))
  return base.map (Path.join · "vaultscribe/config.toml")

/-- The settings of the user; the defaults if there are none that can be read. -/
def userConfiguration (added : Fields String) : m Configuration := do
  match ← userConfigurationPath? added with
  | none => return {}
  | some path => return (← readConfiguration path).toOption.getD {}

/-- The values of some variables. -/
def valuesOf (added : Fields String) : List String → m (Fields String)
  | [] => return []
  | name :: rest => do
    let others ← valuesOf added rest
    match ← valueOf? added name with
    | some value => return Fields.insert name value others
    | none => return others

/-- The settings of the program, from the given file or from the one of the user. -/
def loadConfiguration (path : Option String) : m (Except Failure Configuration) := do
  let added ← addedVariables
  let start ← match path with
    | some path => readConfiguration path
    | none => pure (.ok (← userConfiguration added))
  let values ← valuesOf added Configuration.variableNames
  return start.bind fun configuration => configuration.overridden (Fields.find? · values)

end NoteTemplate.CommandLine
