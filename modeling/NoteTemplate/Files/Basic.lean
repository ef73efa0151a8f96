import NoteTemplate.Files.Path

/-!
# Files and folders

What the library asks of the place where files are kept, whether that is a disk or a value
in memory. Every operation can fail, and a fault has a wording and a number.
-/

namespace NoteTemplate

/-- Why a file or folder cannot be used. -/
inductive FileFault where
  /-- There is nothing at a path. -/
  | missing
  /-- Something is there already. -/
  | present
  /-- A file stands where a folder is needed. -/
  | notFolder
  /-- A folder stands where a file is needed. -/
  | isFolder
  /-- A path or one of its parts is too long. -/
  | longName
  /-- A path holds the character that no path may hold. -/
  | nullCharacter
  /-- A file does not hold text. -/
  | notText
  /-- Any other fault, with its wording. -/
  | other (message : String)
deriving Repr, DecidableEq

/-- A wording with the number that systems give to a fault. -/
def numbered (message : String) (number : Nat) : String :=
  message ++ " (os error " ++ toString number ++ ")"

/-- The wording of a fault. -/
def FileFault.message : FileFault → String
  | .missing => numbered "No such file or directory" 2
  | .present => numbered "File exists" 17
  | .notFolder => numbered "Not a directory" 20
  | .isFolder => numbered "Is a directory" 21
  | .longName => numbered "File name too long" 36
  | .nullCharacter => "file name contained an unexpected NUL byte"
  | .notText => "stream did not contain valid UTF-8"
  | .other message => message

/-- What a path leads to. -/
inductive FileStatus where
  /-- A file with its number of bytes and the time of its last modification. -/
  | file (size modified : Nat)
  /-- A folder. -/
  | folder
  /-- Something else. -/
  | other
deriving Repr, DecidableEq

/-- Where files and folders are kept. -/
class Files (m : Type → Type) where
  /-- What a path leads to. -/
  status (path : String) : m (Except FileFault FileStatus)
  /-- The bytes of a file. -/
  bytes (path : String) : m (Except FileFault ByteArray)
  /-- The names of what lies in a folder. -/
  names (path : String) : m (Except FileFault (List String))
  /-- Makes a folder within one that exists. -/
  makeFolder (path : String) : m (Except FileFault Unit)
  /-- Writes a file, in place of what it held. -/
  write (path text : String) : m (Except FileFault Unit)
  /-- Makes an empty file unless there is one. -/
  touch (path : String) : m (Except FileFault Unit)

/-- A part of a path has at most this many bytes. -/
def partLimit : Nat := 255

/-- A path has fewer bytes than this. -/
def pathLimit : Nat := 4096

/-- What is wrong with a path by itself. -/
def pathFault? (path : String) : Option FileFault :=
  if path.toList.contains '\x00' then some .nullCharacter
  else if pathLimit ≤ path.utf8ByteSize then some .longName
  else none

namespace Files

variable {m : Type → Type} [Monad m] [Files m]

/-- Whether a path leads to a folder. -/
def isFolder (path : String) : m Bool := do
  match ← status path with
  | .ok .folder => return true
  | _ => return false

/-- Makes a folder that may exist already. -/
def ensureFolder (path : String) : m (Except FileFault Unit) := do
  match ← makeFolder path with
  | .ok () => return .ok ()
  | .error fault => return if ← isFolder path then .ok () else .error fault

/-- Makes a folder and those around it that are missing, at most `levels` of them. -/
def makeFoldersWithin : (levels : Nat) → (path : String) → m (Except FileFault Unit)
  | 0, path => ensureFolder path
  | levels + 1, path => do
    if path = "" then return .ok ()
    else
      match ← ensureFolder path, Path.parent? path with
      | .error .missing, some around =>
        match ← makeFoldersWithin levels around with
        | .ok () => ensureFolder path
        | .error fault => return .error fault
      | result, _ => return result

/-- Makes a folder and those around it that are missing. -/
def makeFolders (path : String) : m (Except FileFault Unit) :=
  makeFoldersWithin ((Path.parts path).length + 1) path

/-- The text of a file. -/
def text (path : String) : m (Except FileFault String) := do
  match ← bytes path with
  | .error fault => return .error fault
  | .ok bytes =>
    match String.fromUTF8? bytes with
    | some text => return .ok text
    | none => return .error .notText

end Files

end NoteTemplate
