import NoteTemplate.Engine

/-!
# Validation of stored templates

A template is checked without a context: its tags as they are stored, the tree that is
left when its parents are filled in, and the trees of the templates that it includes,
whatever conditions stand before the includes. An error makes a template invalid; a
warning does not.
-/

namespace NoteTemplate

open Template (Compiled Group Node SyntaxError Warning)

/-- Something that a validation found. -/
inductive Finding where
  /-- Groups of a kind that are not closed as often as they are opened. -/
  | unbalanced (group : Group) (opened closed : Nat)
  /-- A fault in the stored text. -/
  | malformed (error : SyntaxError)
  /-- A fault in the text with its parents filled in. -/
  | malformedFilledIn (error : SyntaxError)
  /-- A fault that was met while the parents were filled in. -/
  | warned (warning : Warning)
  /-- A call of a function that does not exist. -/
  | unknownFunction (name : String) (line : Nat)
  /-- A tag that means nothing. -/
  | unknownTag (tag : String) (line : Nat)
  /-- An included template that does not exist. -/
  | missingInclusion (name : String) (line : Nat)
  /-- Templates that refer to each other in a circle. -/
  | circular (chain : List String) (line : Option Nat)
  /-- Templates that include each other too deeply. -/
  | tooDeep (name : String) (depth line : Nat)
  /-- A block that the parent does not have. -/
  | unknownBlock (block name parent : String)
deriving Repr, DecidableEq

/-- How much a finding matters. -/
inductive Severity where
  /-- The template cannot be rendered. -/
  | error
  /-- The template can be rendered. -/
  | warning
deriving Repr, DecidableEq

/-- The name of a severity. -/
def Severity.name : Severity → String
  | .error => "error"
  | .warning => "warning"

namespace Finding

/-- How much a finding matters. -/
def severity : Finding → Severity
  | .unbalanced .. | .malformed _ | .malformedFilledIn _ | .circular .. | .tooDeep .. => .error
  | _ => .warning

/-- The wording of a finding. -/
def message : Finding → String
  | .unbalanced group opened closed =>
    "unbalanced " ++ group.label ++ ": " ++ toString opened ++ " opened, " ++ toString closed ++
      " closed"
  | .malformed error => error.message
  | .malformedFilledIn error => "after inheritance: " ++ error.message
  | .warned warning => warning.display
  | .unknownFunction name _ => "unknown function '" ++ name ++ "'"
  | .unknownTag tag _ => "unrecognised tag '" ++ tag ++ "' will be removed"
  | .missingInclusion name _ => "included template '" ++ name ++ "' not found"
  | .circular chain _ => (Failure.circular chain).message
  | .tooDeep name depth _ => (Failure.tooDeep name depth).message
  | .unknownBlock block name parent =>
    "block '" ++ block ++ "' in '" ++ name ++ "' is not defined by parent '" ++ parent ++ "'"

/-- The line of a finding, if it has one. -/
def line? : Finding → Option Nat
  | .malformed error | .malformedFilledIn error => some error.line
  | .unknownFunction _ line | .unknownTag _ line | .missingInclusion _ line
  | .tooDeep _ _ line => some line
  | .circular _ line => line
  | _ => none

/-- A finding in one line. -/
def display (finding : Finding) : String :=
  match finding.line? with
  | some line =>
    finding.severity.name ++ " (line " ++ toString line ++ "): " ++ finding.message
  | none => finding.severity.name ++ ": " ++ finding.message

/-- Whether a finding makes a template invalid. -/
def isError (finding : Finding) : Bool := finding.severity = .error

end Finding

/-- The result of a validation. -/
structure Report where
  /-- What was found, in order. -/
  findings : List Finding
deriving Repr, DecidableEq

/-- Whether a template can be rendered. -/
def Report.isValid (report : Report) : Bool := !report.findings.any Finding.isError

/-- The findings that make a template invalid. -/
def Report.errors (report : Report) : List Finding := report.findings.filter Finding.isError

/-- The findings that do not make a template invalid. -/
def Report.warnings (report : Report) : List Finding :=
  report.findings.filter (!·.isError)

/-- The findings in a text as it is stored. -/
def sourceFindings (text : String) : List Finding :=
  (Template.unbalanced text).map (fun (group, opened, closed) => .unbalanced group opened closed) ++
    match Template.parse text with
    | .ok _ => []
    | .error error => [.malformed error]

/-- The finding that a node gives by itself. -/
def nodeFinding? : Node → Option Finding
  | .call name _ line =>
    if name ∈ Template.functionNames then none else some (.unknownFunction name line)
  | .unknown tag line => some (.unknownTag tag line)
  | _ => none

/-- The template that a node includes, with its line. -/
def inclusion? : Node → Option (String × Nat)
  | .inclusion name line => some (name, line)
  | _ => none

/-- The templates that nodes include, each where it comes first. -/
def inclusions (nodes : List Node) : List (String × Nat) :=
  (Node.flattenAll nodes).filterMap inclusion? |>.foldl
    (fun found (name, line) =>
      if found.any (·.1 = name) then found else found ++ [(name, line)]) []

section Checks

variable {σ : Type}

/-- Runs checks one after another. -/
def checkAll {α : Type} (check : α → Template.Attempt σ (List Finding)) :
    List α → Template.Attempt σ (List Finding)
  | [] => return []
  | subject :: rest => do
    let first ← check subject
    let others ← checkAll check rest
    return first ++ others

/-- Checks nodes and the templates that they include, given how these are checked. -/
def checkNodes (check : String × Nat → Template.Attempt σ (List Finding)) (nodes : List Node) :
    Template.Attempt σ (List Finding) := do
  let included ← checkAll check (inclusions nodes)
  return (Node.flattenAll nodes).filterMap nodeFinding? ++ included

end Checks

namespace Shelf

variable (shelf : Shelf)

/-- Loads a template that is included on a line. If there is none, or if its parents form a
circle, that is a finding. -/
def includedOrFinding (name : String) (line : Nat) : Loading (Except Finding Compiled) :=
  tryCatch
    (do
      match ← shelf.fetch name with
      | some template => return .ok template
      | none => return .error (.missingInclusion name line))
    fun
      | .circular chain => return .error (.circular chain (some line))
      | failure => throw failure

/-- Checks a template that the last one of a chain includes on a line. Only `remaining`
more templates may join the chain, out of the `limit` that is reported. -/
def checkInclusion (limit : Nat) :
    (remaining : Nat) → (chain : List String) → String × Nat → Loading (List Finding)
  | 0, chain, (name, line) =>
    if name ∈ chain then return [.circular (chain ++ [name]) (some line)]
    else return [.tooDeep name limit line]
  | remaining + 1, chain, (name, line) =>
    if name ∈ chain then return [.circular (chain ++ [name]) (some line)]
    else do
      match ← shelf.includedOrFinding name line with
      | .error finding => return [finding]
      | .ok template =>
        match template.parsed with
        | .ok nodes => checkNodes (checkInclusion limit remaining (chain ++ [name])) nodes
        | .error _ => return []

/-- Checks whether a parent has the blocks of a text. -/
def checkBlocks (name text : String) : Loading (List Finding) := do
  match Template.parentName? text.toList with
  | none => return []
  | some parent =>
    if isTemplateName parent then
      match ← shelf.loadText parent with
      | none => return []
      | some parentText =>
        let known := Template.blockNames parentText.toList
        let blocks := Template.blockNames (Template.withoutParentTags text.toList)
        return (blocks.filter (· ∉ known)).map fun block => .unknownBlock block name parent
    else return []

/-- Checks a template with its parents filled in. A fault in its tree counts when the
stored text has none. -/
def checkFilledIn (limit : Nat) (name text : String) (template : Compiled) :
    Loading (List Finding) := do
  let warned := template.warnings.map Finding.warned
  let inner ←
    match template.parsed, Template.parse text with
    | .ok nodes, _ => checkNodes (shelf.checkInclusion limit limit [name]) nodes
    | .error error, .ok _ => pure [.malformedFilledIn error]
    | .error _, .error _ => pure []
  return warned ++ inner ++ (← shelf.checkBlocks name text)

/-- Loads a template; a circle of parents gives a finding. -/
def loadOrFinding (name : String) : Loading (Except Finding (Option Compiled)) :=
  tryCatch (do return .ok (← shelf.load name)) fun
    | .circular chain => return .error (.circular chain none)
    | failure => throw failure

/-- Validates a stored template; none if there is no such template. -/
def validate (limit : Nat) (name : String) : Loading (Option Report) := do
  match ← Template.Attempt.ofExcept (checkName name >>= fun () => shelf.read name) with
  | none => return none
  | some source =>
    let stored := sourceFindings source.text
    match ← shelf.loadOrFinding name with
    | .error finding => return some ⟨stored ++ [finding]⟩
    | .ok none => return some ⟨stored⟩
    | .ok (some template) =>
      return some ⟨stored ++ (← shelf.checkFilledIn limit name source.text template)⟩

end Shelf

end NoteTemplate
