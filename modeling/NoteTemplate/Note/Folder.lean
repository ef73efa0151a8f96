import NoteTemplate.Text.Blank
import NoteTemplate.Text.Casing

/-!
# Folders of a vault

A vault has a fixed set of folders for notes. A header can name one of them, and
the type of a note suggests one.
-/

namespace NoteTemplate

/-- A folder of a vault. -/
inductive VaultFolder where
  | inbox
  | projects
  | dailyNotes
  | ideas
  | archive
  | resources
  | finance
  | tasks
  | health
  | knowledge
  | metaNotes
  | templates
deriving Repr, DecidableEq

namespace VaultFolder

/-- All folders in the order of their paths. -/
def all : List VaultFolder :=
  [inbox, projects, dailyNotes, ideas, archive, resources, finance, tasks, health, knowledge,
    metaNotes, templates]

/-- The path of a folder within the vault. -/
def path : VaultFolder → String
  | inbox => "00_Inbox"
  | projects => "01_Projects"
  | dailyNotes => "02_DailyNotes"
  | ideas => "03_Ideas"
  | archive => "04_Archive"
  | resources => "05_Resources"
  | finance => "06_Finance"
  | tasks => "07_Tasks"
  | health => "08_Health"
  | knowledge => "09_Knowledge"
  | metaNotes => "99_Meta"
  | templates => "99_Meta/Templates"

/-- Removes the slashes at the back of a text. -/
def withoutSlashes (text : List Char) : List Char :=
  (text.reverse.dropWhile (· = '/')).reverse

/-- The folder with a path. White space around the path and slashes at its back are
passed over. -/
def ofPath? (text : String) : Option VaultFolder :=
  let path := String.ofList (withoutSlashes (Text.trim text.toList))
  all.find? fun folder => folder.path = path

/-- The folder that the type of a note suggests, whatever the case of its letters. -/
def ofNoteType (noteType : String) : VaultFolder :=
  match Text.foldedCase (Text.trimmed noteType) with
  | "idea" => ideas
  | "task" => projects
  | "meeting" => knowledge
  | "daily" => dailyNotes
  | _ => inbox

end VaultFolder

end NoteTemplate
