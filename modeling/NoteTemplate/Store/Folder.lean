import NoteTemplate.Fields
import NoteTemplate.Files.Basic
import NoteTemplate.Store.Shelf

/-!
# A store in a folder

Every template is a file of a folder, named for the template. A folder that does not exist
holds no templates, and the first write makes it. Only what is small enough and holds text
can be read.
-/

namespace NoteTemplate

/-- The ending of the names of template files. -/
def templateEnding : String := ".md"

/-- The name of the file of a template. -/
def templateFileName (name : String) : String := name ++ templateEnding

/-- The template whose file has a name. -/
def templateNameOf? (fileName : String) : Option String :=
  (Path.nameBefore? templateEnding fileName).filter isTemplateName

/-- A store in a folder. -/
structure FolderStore where
  /-- The path of the folder. -/
  base : String
deriving Repr, DecidableEq

/-- A template file as it was found. -/
structure StoredFile where
  /-- When it was last modified. -/
  modified : Stamp
  /-- Its text, or why it cannot be read. -/
  text : Except Failure String

/-- What a folder of templates holds at one moment. -/
structure FolderContent where
  /-- The path of the folder. -/
  base : String
  /-- Whether the path of the folder leads anywhere. -/
  isPresent : Bool
  /-- What keeps the files in the folder from being looked at, if anything. -/
  fault : Option FileFault
  /-- The template files by the names of their templates, unless they cannot be listed. -/
  files : Except FileFault (Fields StoredFile)

namespace FolderStore

/-- The path of the file of a template. -/
def templatePath (store : FolderStore) (name : String) : Except Failure String := do
  checkName name
  return Path.join store.base (templateFileName name)

section Reading

variable {m : Type → Type} [Monad m] [Files m]

/-- A template file of a given size as text. -/
def readFile (path : String) (size : Nat) : m (Except Failure String) := do
  if sizeLimit < size then return .error (.rejected (.oversized path))
  else
    return (← Files.text path).mapError fun fault => .failed .readTemplate fault.message

/-- The template files among the names in a folder. -/
def readFiles (base : String) : List String → m (Fields StoredFile)
  | [] => return []
  | fileName :: rest => do
    let others ← readFiles base rest
    match templateNameOf? fileName with
    | none => return others
    | some name =>
      let path := Path.join base fileName
      match ← Files.status path with
      | .ok (.file size modified) =>
        return Fields.insert name ⟨modified, ← readFile path size⟩ others
      | _ => return others

/-- What the folder holds now. An empty path leads nowhere, but files can be found below
it in the current folder. -/
def content (store : FolderStore) : m FolderContent := do
  let inside := Path.join store.base "."
  let isPresent := (← Files.status store.base).isOk
  let fault := match ← Files.status inside with
    | .ok _ => none
    | .error fault => some fault
  match ← Files.names inside with
  | .ok names => return ⟨store.base, isPresent, fault, .ok (← readFiles store.base names)⟩
  | .error listFault => return ⟨store.base, isPresent, fault, .error listFault⟩

/-- Makes the folder of a store. -/
def create (store : FolderStore) : m (Except Failure Unit) := do
  return (← Files.makeFolders store.base).mapError fun fault =>
    .failed .createFolder fault.message

/-- Stores a text under a name. -/
def write (store : FolderStore) (name text : String) : m (Except Failure Unit) := do
  match store.templatePath name with
  | .error failure => return .error failure
  | .ok path =>
    match ← store.create with
    | .error failure => return .error failure
    | .ok () =>
      return (← Files.write path text).mapError fun fault =>
        .failed .writeTemplate fault.message

end Reading

end FolderStore

namespace FolderContent

/-- What keeps the file of a template from being looked at, if anything. -/
def fault? (content : FolderContent) (name : String) : Option FileFault :=
  let fileName := templateFileName name
  match pathFault? (Path.join content.base fileName), content.fault with
  | some fault, _ | none, some fault => some fault
  | none, none => if partLimit < fileName.utf8ByteSize then some .longName else none

/-- The template files that can be listed. -/
def listed (content : FolderContent) : Fields StoredFile := content.files.toOption.getD []

/-- The file of an allowed name. -/
def look (content : FolderContent) (name : String) : Except Failure (Option StoredFile) := do
  checkName name
  match content.fault? name with
  | some .missing => return none
  | some fault => throw (.failed .readMetadata fault.message)
  | none => return Fields.find? name content.listed

/-- The templates in a folder. -/
def shelf (content : FolderContent) : Shelf where
  modified name := (content.look name).map fun found => found.map StoredFile.modified
  read name := do
    match ← content.look name with
    | none => return none
    | some file => return some ⟨← file.text, file.modified⟩
  names :=
    if content.isPresent then
      (content.files.map Fields.names).mapError fun fault => .failed .readFolder fault.message
    else .ok []
  size := content.listed.length

end FolderContent

instance {m : Type → Type} [Monad m] [Files m] : TemplateStore (ReaderT FolderStore m) where
  shelf store := return (← store.content).shelf
  write name text store := store.write name text

end NoteTemplate
