import NoteTemplate.Document

/-!
# Documents as JSON

A document is written as an object with its text, its header, its body and its warnings.
A warning starts with its kind; what else it has depends on the kind.
-/

namespace NoteTemplate

namespace Template.Warning

/-- The name of the kind of a warning. -/
def kind : Warning → String
  | .malformed .. => "syntax"
  | .condition .. => "evaluation"
  | .call .. => "function"
  | .unknownFunction _ => "unknown_function"
  | .unknownTag _ => "unknown_tag"
  | .missingInclusion _ => "missing_include"
  | .missingParent .. => "missing_parent"
  | .header _ => "header"

/-- What a warning has besides its kind. -/
def details : Warning → List (String × Json)
  | .malformed message line => [("message", .string message), ("line", .int line)]
  | .condition expression fault =>
    [("expression", .string expression), ("reason", .string fault.message)]
  | .call name fault => [("name", .string name), ("reason", .string fault.message)]
  | .unknownFunction name | .missingInclusion name => [("name", .string name)]
  | .unknownTag tag => [("tag", .string tag)]
  | .missingParent template parent =>
    [("template", .string template), ("parent", .string parent)]
  | .header fault => [("reason", .string fault.message)]

/-- A warning as an object. -/
def toJson (warning : Warning) : Json :=
  .object (("kind", .string warning.kind) :: warning.details)

end Template.Warning

/-- A document as an object. -/
def Document.toJson (document : Document) : Json :=
  .object [
    ("template", .string document.template),
    ("text", .string document.text),
    ("header", .object document.header),
    ("body", .string document.body),
    ("warnings", .array (document.warnings.map Template.Warning.toJson)),
    ("fallback", .bool document.isFallback)]

end NoteTemplate
