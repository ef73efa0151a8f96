import NoteTemplate.Template.Layout
import NoteTemplate.Template.Rendering
import NoteTemplate.Yaml.Reader

/-!
# Rendered documents

A document is the text that a template renders to, with the warnings that came up. A
text can start with a header: a line of three hyphens, lines of YAML, and another line
of three hyphens; white space behind the hyphens does not matter. What follows is the
body. Text that is no template is shown as it stands.
-/

namespace NoteTemplate

open Template (Attempt Compiled Fetch HeaderFault Warning)

/-- A line that starts or ends a header. -/
def isHeaderDelimiter (line : List Char) : Bool := Text.trimEnd line = "---".toList

/-- The YAML and the body of a text that starts with a header. -/
def headerBlock? (text : List Char) : Option (List Char × List Char) :=
  match Text.lines text with
  | [] => none
  | first :: rest =>
    if isHeaderDelimiter first then
      match rest.dropWhile (!isHeaderDelimiter ·) with
      | [] => none
      | _ :: body => some ((rest.takeWhile (!isHeaderDelimiter ·)).flatten, body.flatten)
    else none

/-- The fields that the YAML of a header gives, or why it gives none. A header without
content has no fields. -/
def headerFields (yaml : String) : Except HeaderFault (Fields Json) :=
  match Yaml.read? yaml with
  | some (.object fields) => .ok fields
  | some .null => .ok []
  | some _ => .error .notMapping
  | none => .error .unreadable

/-- A text cut into header and body. -/
structure Split where
  /-- The fields of the header. -/
  header : Fields Json
  /-- The text behind the header. -/
  body : String
  /-- Why there are no fields although there is a header. -/
  fault : Option HeaderFault

/-- Cuts a text into header and body. -/
def Split.ofText (text : String) : Split :=
  match headerBlock? text.toList with
  | none => ⟨[], text, none⟩
  | some (yaml, body) =>
    match headerFields (String.ofList yaml) with
    | .ok fields => ⟨fields, String.ofList body, none⟩
    | .error fault => ⟨[], String.ofList body, some fault⟩

/-- What a template renders to. -/
structure Document where
  /-- The name of the template; empty for text that is not stored. -/
  template : String
  /-- The whole text. -/
  text : String
  /-- The fields of the header. -/
  header : Fields Json
  /-- The text behind the header. -/
  body : String
  /-- The faults that the rendering recovered from. -/
  warnings : List Warning
  /-- The text is shown as it stands, since it is no template. -/
  isFallback : Bool

namespace Document

/-- A document with a text, whose header may give one more warning. -/
def ofText (template text : String) (warnings : List Warning) (isFallback : Bool) : Document :=
  let split := Split.ofText text
  { template := template
    text := text
    header := split.header
    body := split.body
    warnings := warnings ++ split.fault.toList.map .header
    isFallback := isFallback }

/-- Whether nothing went wrong. -/
def isClean (document : Document) : Bool := document.warnings.isEmpty && !document.isFallback

/-- A field of the header that holds a text. -/
def headerText? (document : Document) (name : String) : Option String :=
  (Fields.find? name document.header).bind Json.string?

end Document

/-- Includes may be nested this deep unless it is set otherwise. -/
def defaultIncludeLimit : Nat := 8

/-- Renders a template, given where included templates come from and how deep includes
may be nested. -/
def renderCompiled {σ : Type} (fetch : Fetch σ) (limit : Nat) (template : Compiled)
    (context : Context) : Attempt σ Document :=
  match template.parsed with
  | .ok nodes => do
    let fragment ← Template.renderTree fetch limit template.name context nodes
    return .ofText template.name (Template.tidy fragment.text)
      (template.warnings ++ fragment.warnings) false
  | .error error =>
    return .ofText template.name template.text
      (template.warnings ++ [.malformed error.message error.line]) true

/-- The document of a template that cannot be rendered for a reason that is no fault of
its text. -/
def failedDocument (template : Compiled) (failure : Failure) : Document :=
  { Document.ofText template.name template.text [] true with
    warnings := [.malformed failure.message 0] }

/-- Renders a template where no other templates are stored; there is no document if the
rendering is aborted. -/
def renderAlone (limit : Nat) (template : Compiled) (context : Context) : Option Document :=
  match ((renderCompiled Template.fetchNothing limit template context).run ()).1 with
  | .ok document => some document
  | .error .aborted => none
  | .error failure => some (failedDocument template failure)

/-- Renders a text where no templates are stored; there is no document if the rendering is
aborted. -/
def renderText (limit : Nat) (text : String) (context : Context) : Option Document :=
  renderAlone limit (Compiled.ofText "" text []) context

end NoteTemplate
