import NoteTemplate.Document
import NoteTemplate.Files.Path
import NoteTemplate.Note.Folder
import NoteTemplate.Store.Cache
import NoteTemplate.Text.Casing
import NoteTemplate.Toml.Reader

/-!
# Configuration

The settings of the program have defaults. A configuration file replaces some of them, and
environment variables replace some of the result. A file may only set what there is to be
set, except among the settings for the log, where anything else is passed over.
-/

namespace NoteTemplate

/-- How entries of the log are written. -/
inductive LogFormat where
  /-- For people. -/
  | pretty
  /-- For programs. -/
  | json
deriving Repr, DecidableEq

namespace LogFormat

/-- The name of a format. -/
def name : LogFormat → String
  | .pretty => "pretty"
  | .json => "json"

/-- The format with a name. -/
def ofName? (name : String) : Option LogFormat :=
  if name = "pretty" then some .pretty
  else if name = "json" then some .json
  else none

/-- The format that a text names without regard to case and to white space around it.
There is a second name for the format for people. -/
def ofText? (text : String) : Option LogFormat :=
  let name := Text.foldedCase (Text.trimmed text)
  if name = "text" then some .pretty else ofName? name

/-- The format that a value names, as a text or as the only name in a table, with an empty
value. -/
def ofToml? : Toml → Option LogFormat
  | .string name => ofName? name
  | .table _ [(name, .table _ [])] | .table _ [(name, .array _ [])] => ofName? name
  | _ => none

end LogFormat

/-- The settings for the log. -/
structure LogSettings where
  /-- What is logged. -/
  level : String := "warn"
  /-- How it is written. -/
  format : LogFormat := .pretty
  /-- The file it is written to; none for the standard error stream. -/
  file : Option String := none
deriving Repr, DecidableEq

/-- The value of a setting: what is set, if it is anything, or what it would be without. -/
def settingOr {α : Type} (read : Toml → Option α) (fallback : α) : Option Toml → Option α
  | none => some fallback
  | some value => read value

/-- The settings for the log, of which some may be missing. -/
def LogSettings.ofValues? (level format file : Option Toml) : Option LogSettings := do
  let defaults : LogSettings := {}
  return {
    level := ← settingOr Toml.text? defaults.level level
    format := ← settingOr LogFormat.ofToml? defaults.format format
    file := ← settingOr (fun value => value.text?.map some) defaults.file file }

/-- The settings for the log, by name or as a list in order. -/
def LogSettings.ofToml? : Toml → Option LogSettings
  | .table _ fields =>
    ofValues? (Fields.find? "level" fields) (Fields.find? "format" fields)
      (Fields.find? "file" fields)
  | .array _ values => ofValues? values[0]? values[1]? values[2]?
  | _ => none

/-- The settings of the program. -/
structure Configuration where
  /-- The folder of the vault. -/
  vault : String := "."
  /-- The folder of the templates, if it is not the one of the vault. -/
  templates : Option String := none
  /-- How many templates are cached. -/
  cacheCapacity : Nat := Cache.defaultCapacity
  /-- How deep includes may be nested. -/
  includeLimit : Nat := defaultIncludeLimit
  /-- The settings for the log. -/
  log : LogSettings := {}
deriving Repr, DecidableEq

namespace Configuration

/-- The names of all settings. -/
def settingNames : List String :=
  ["vault_path", "templates_dir", "cache_capacity", "max_include_depth", "logging"]

/-- The folder that the templates lie in. -/
def templatesFolder (configuration : Configuration) : String :=
  configuration.templates.getD (Path.join configuration.vault VaultFolder.templates.path)

/-- The settings that a configuration file gives. -/
def ofFields? (fields : Fields Toml) : Option Configuration := do
  guard (fields.all fun (name, _) => name ∈ settingNames)
  let defaults : Configuration := {}
  let setting (name : String) := Fields.find? name fields
  return {
    vault := ← settingOr Toml.text? defaults.vault (setting "vault_path")
    templates := ←
      settingOr (fun value => value.text?.map some) defaults.templates (setting "templates_dir")
    cacheCapacity := ← settingOr Toml.count? defaults.cacheCapacity (setting "cache_capacity")
    includeLimit := ← settingOr Toml.count? defaults.includeLimit (setting "max_include_depth")
    log := ← settingOr LogSettings.ofToml? defaults.log (setting "logging") }

/-- The settings of a configuration file. -/
def read (text : String) : Except Failure Configuration :=
  match (Toml.read? text).bind ofFields? with
  | some configuration => .ok configuration
  | none => .error (.failed .parseConfigFile "the settings are not well formed")

/-- The names of the environment variables that replace settings. -/
def variableNames : List String :=
  ["VAULTSCRIBE_VAULT_PATH", "VAULTSCRIBE_TEMPLATES_DIR", "VAULTSCRIBE_LOG_LEVEL",
    "VAULTSCRIBE_LOG_FORMAT"]

/-- A variable that is set to something. -/
def nonempty? (environment : String → Option String) (name : String) : Option String :=
  (environment name).filter (!·.isEmpty)

/-- The settings with those replaced that environment variables set. -/
def overridden (configuration : Configuration) (environment : String → Option String) :
    Except Failure Configuration := do
  let log := configuration.log
  let format ← match nonempty? environment "VAULTSCRIBE_LOG_FORMAT" with
    | none => pure log.format
    | some text =>
      match LogFormat.ofText? text with
      | some format => pure format
      | none => throw (.rejected (.unknownLogFormat text))
  return { configuration with
    vault := (nonempty? environment "VAULTSCRIBE_VAULT_PATH").getD configuration.vault
    templates := (nonempty? environment "VAULTSCRIBE_TEMPLATES_DIR").or configuration.templates
    log := { log with
      level := (nonempty? environment "VAULTSCRIBE_LOG_LEVEL").getD log.level
      format := format } }

end Configuration

end NoteTemplate
