import NoteTemplate.Calendar.Pattern
import NoteTemplate.Json.Writer
import NoteTemplate.Note.Folder
import NoteTemplate.Text.Blank

/-!
# Headers of notes

The header of a note always names its folder and says when the note was created and
modified. What the header of the document says is kept; the rest is filled in.
-/

namespace NoteTemplate

open Calendar (Moment)

namespace Header

/-- A field that holds a text. -/
def text? (header : Fields Json) (name : String) : Option String :=
  (Fields.find? name header).bind Json.string?

/-- The folder of a note: the one that the header names, which is the inbox if there is no
such folder, or else the one that its type suggests. -/
def folder (header : Fields Json) : VaultFolder :=
  match text? header "obsidian_folder" with
  | some path => (VaultFolder.ofPath? path).getD .inbox
  | none => VaultFolder.ofNoteType ((text? header "type").getD "general")

/-- The header with its folder, which is named unless it was named before. -/
def withFolder (header : Fields Json) : Fields Json :=
  match text? header "obsidian_folder" with
  | some _ => header
  | none => Fields.insert "obsidian_folder" (.string (folder header).path) header

/-- The text of a field that gives a time. What is no text is written as JSON, and nothing
counts as a missing field. -/
def time? (header : Fields Json) (name : String) : Option String :=
  match Fields.find? name header with
  | none | some .null => none
  | some (.string text) => some text
  | some other => some other.compact

/-- The header with the times of its creation and of its modification. -/
def withTimes (now : Moment) (header : Fields Json) : Fields Json :=
  let created := (time? header "created").getD (Calendar.format Calendar.stampItems now)
  let modified := (time? header "modified").getD created
  Fields.insert "modified" (.string modified) (Fields.insert "created" (.string created) header)

/-- Whether an item of a list of tags says something. -/
def isTag : Json → Bool
  | .null => false
  | .string text => !Text.isBlankText text
  | _ => true

/-- The header with the items of a list of tags that say something. -/
def withTags (name : String) (header : Fields Json) : Fields Json :=
  match Fields.find? name header with
  | some (.array tags) => Fields.insert name (.array (tags.filter isTag)) header
  | _ => header

/-- The header of a note that is made now. -/
def prepared (now : Moment) (header : Fields Json) : Fields Json :=
  withTags "ai_tags" (withTags "tags" (withTimes now (withFolder header)))

end Header

end NoteTemplate
