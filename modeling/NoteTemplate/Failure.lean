import NoteTemplate.Text.Character
import NoteTemplate.Text.Pieces

/-!
# Failures

What makes an operation of the library fail as a whole. Faults that an operation
recovers from are warnings and not failures. An operation that is aborted fails in a way
of its own: nothing recovers from that, and it is handed to nobody.
-/

namespace NoteTemplate

/-- Template names may have this many characters. -/
def nameLimit : Nat := 128

/-- A stored template may have this many bytes. -/
def sizeLimit : Nat := 1048576

/-- Why an input is turned down. -/
inductive Rejection where
  /-- A template name has no characters. -/
  | emptyName
  /-- A template name has too many characters. -/
  | longName
  /-- A template name starts with a dot. -/
  | hiddenName (name : String)
  /-- A template name holds a character that no name may hold. -/
  | badCharacter (c : Char) (name : String)
  /-- A stored template has too many bytes. -/
  | oversized (path : String)
  /-- A log format has an unknown name. -/
  | unknownLogFormat (name : String)
deriving Repr, DecidableEq

/-- The wording of a rejection. -/
def Rejection.message : Rejection → String
  | .emptyName => "template name is empty"
  | .longName => "template name exceeds " ++ toString nameLimit ++ " characters"
  | .hiddenName name => "template name cannot start with '.': " ++ name
  | .badCharacter c name =>
    "template name contains invalid character " ++ Text.shown c ++ ": " ++ name
  | .oversized path =>
    "Template file exceeds maximum size of " ++ toString sizeLimit ++ " bytes: " ++ path
  | .unknownLogFormat name => "unknown log format '" ++ name ++ "'"

/-- An operation on what lies outside the library. -/
inductive Operation where
  | readMetadata
  | readTemplate
  | readFolder
  | createFolder
  | writeTemplate
  | readConfigFile
  | parseConfigFile
  | createLogFolder
  | openLogFile
  | writeHeader
deriving Repr, DecidableEq

/-- The name of an operation. -/
def Operation.name : Operation → String
  | .readMetadata => "read_template_metadata"
  | .readTemplate => "read_template"
  | .readFolder => "read_template_dir"
  | .createFolder => "create_template_dir"
  | .writeTemplate => "write_template"
  | .readConfigFile => "read_config_file"
  | .parseConfigFile => "parse_config_file"
  | .createLogFolder => "create_log_dir"
  | .openLogFile => "open_log_file"
  | .writeHeader => "serialize_header"

/-- Why an operation has no result. -/
inductive Failure where
  /-- An input is turned down. -/
  | rejected (rejection : Rejection)
  /-- An operation on what lies outside failed, for the given cause. -/
  | failed (operation : Operation) (cause : String)
  /-- Templates refer to each other in a circle. The last name occurs before. -/
  | circular (chain : List String)
  /-- Templates include each other to a greater depth than allowed. -/
  | tooDeep (name : String) (depth : Nat)
  /-- The operation is aborted, since a moment cannot be written in the form that is asked for. -/
  | aborted
deriving Repr, DecidableEq

/-- The wording of a failure. -/
def Failure.message : Failure → String
  | .rejected rejection => "invalid input: " ++ rejection.message
  | .failed operation cause => "operation '" ++ operation.name ++ "' failed: " ++ cause
  | .circular chain => "circular template chain: " ++ Text.joined " -> " chain
  | .tooDeep name depth =>
    "include depth " ++ toString depth ++ " exceeded while including '" ++ name ++ "'"
  | .aborted => "a Display implementation returned an error unexpectedly: Error"

/-- Whether a failure is a circle of templates. -/
def Failure.isCycle : Failure → Bool
  | .circular _ => true
  | _ => false

end NoteTemplate
