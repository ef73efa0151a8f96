import NoteTemplate.Template.Condition
import NoteTemplate.Template.Function
import NoteTemplate.Template.Parser

/-!
# Warnings

Faults that a rendering recovers from. They are handed out with the document, so
that a broken template does not go unnoticed.
-/

namespace NoteTemplate.Template

/-- Why a header has no fields. -/
inductive HeaderFault where
  /-- The header is no YAML. Why it is none is told in words of its own, which are left out. -/
  | unreadable
  /-- The header is YAML, but no mapping. -/
  | notMapping
deriving Repr, DecidableEq

/-- The wording of a fault in a header. -/
def HeaderFault.message : HeaderFault → String
  | .unreadable => "header is not valid YAML"
  | .notMapping => "header is not a key/value mapping"

/-- A fault that a rendering recovers from. -/
inductive Warning where
  /-- A text is no template and was shown as it stands. -/
  | malformed (message : String) (line : Nat)
  /-- A condition has no outcome and counts as not holding. -/
  | condition (expression : String) (fault : ConditionFault)
  /-- A call shows nothing because of its arguments. -/
  | call (name : String) (fault : CallFault)
  /-- A call names no function. -/
  | unknownFunction (name : String)
  /-- A tag that means nothing was left out. -/
  | unknownTag (tag : String)
  /-- An included template does not exist. -/
  | missingInclusion (name : String)
  /-- The parent of a template does not exist. -/
  | missingParent (template : String) (parent : String)
  /-- The header of a document has no fields. -/
  | header (fault : HeaderFault)
deriving Repr, DecidableEq

/-- The wording of a warning. -/
def Warning.display : Warning → String
  | .malformed message line =>
    "template syntax error at line " ++ toString line ++ ": " ++ message
  | .condition expression fault =>
    "could not evaluate condition '" ++ expression ++ "': " ++ fault.message
  | .call name fault => "function '" ++ name ++ "' failed: " ++ fault.message
  | .unknownFunction name => "unknown function '" ++ name ++ "'"
  | .unknownTag tag => "removed unrecognised tag '" ++ tagText tag ++ "'"
  | .missingInclusion name => "included template '" ++ name ++ "' not found"
  | .missingParent template parent =>
    "template '" ++ template ++ "' extends missing parent '" ++ parent ++ "'"
  | .header fault => "header block could not be parsed: " ++ fault.message

/-- The warning that a faulty call gives rise to, if the rendering goes on. -/
def Warning.ofCall? (name : String) : CallFault → Option Warning
  | .unknown => some (.unknownFunction name)
  | .unwritable => none
  | fault => some (.call name fault)

/-- A template that is ready to be rendered. -/
structure Compiled where
  /-- The name; empty for text that is not stored. -/
  name : String
  /-- The text after the parents have been filled in. -/
  text : String
  /-- The tree of the text, or what keeps it from being a template. -/
  parsed : Except SyntaxError (List Node)
  /-- Faults met while the text was put together. -/
  warnings : List Warning

/-- Prepares a text for rendering. -/
def Compiled.ofText (name text : String) (warnings : List Warning) : Compiled :=
  ⟨name, text, parse text, warnings⟩

end NoteTemplate.Template
