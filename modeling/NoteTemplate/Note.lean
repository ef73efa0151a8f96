import NoteTemplate.Document
import NoteTemplate.Note.Header
import NoteTemplate.Note.Message
import NoteTemplate.Yaml.Writer

/-!
# Notes

A document becomes a note when its header is complete and it has a file name. New
notes lie in the inbox, whatever folder their header names.
-/

namespace NoteTemplate

open Calendar (Moment)

/-- A note, ready to be written to the vault. -/
structure Note where
  /-- The name of its file. -/
  fileName : String
  /-- The folder that its header names. -/
  folder : VaultFolder
  /-- The complete header. -/
  header : Fields Json
  /-- The text behind the header. -/
  body : String

namespace Note

/-- The ending of the names of notes and of templates. -/
def fileEnding : String := ".md"

/-- A name that is one part of a path: slashes of both kinds become hyphens, and white
space at the ends is dropped. -/
def flattened (name : String) : List Char :=
  (Text.trim name.toList).map fun c => if c = '/' ∨ c = '\\' then '-' else c

/-- A name with the ending of notes. -/
def withEnding (name : List Char) : String :=
  String.ofList (if fileEnding.toList.isSuffixOf name then name else name ++ fileEnding.toList)

/-- The text that a name is bound to, if it passes a test. -/
def boundText? (context : Context) (name : String) (test : String → Bool) : Option String :=
  ((context.get? name).map Value.display).filter test

/-- The file name that is asked for, or else one of the date and the template. -/
def requestedName (template : String) (context : Context) (now : Moment) : String :=
  match boundText? context "filename" (!Text.isBlankText ·) with
  | some name => name
  | none =>
    let date := (boundText? context "date_ymd" (!·.isEmpty)).getD
      (Calendar.format Calendar.dayItems now)
    date ++ "-" ++ template

/-- The file name of a note. -/
def fileNameOf (template : String) (context : Context) (now : Moment) : String :=
  withEnding (flattened (requestedName template context now))

/-- The note of a document. -/
def ofDocument (template : String) (document : Document) (context : Context) (now : Moment) :
    Note where
  fileName := fileNameOf template context now
  folder := Header.folder document.header
  header := Header.prepared now document.header
  body := document.body

/-- Where a note is written in the vault. -/
def path (note : Note) : String := VaultFolder.inbox.path ++ "/" ++ note.fileName

/-- The text of a note: its header between lines of hyphens, unless it is empty, and its
body. -/
def markdown (note : Note) : String :=
  if note.header.isEmpty then note.body
  else "---\n" ++ Yaml.write note.header ++ "---\n" ++ note.body

end Note

end NoteTemplate
