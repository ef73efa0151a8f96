import NoteTemplate.Failure
import NoteTemplate.Template.Warning

/-!
# Rendering trees

A rendering turns nodes into a fragment: text with warnings. Includes are fetched
from outside, which may keep a state of its own, so a rendering is a computation
over that state that may fail. The templates that are being included form a chain;
a template may not be included from within itself, and the length of the chain is
limited, which bounds the rendering of any tree.
-/

namespace NoteTemplate.Template

/-- A computation over a state that may fail; the state outlives a failure. -/
abbrev Attempt (σ α : Type) := ExceptT Failure (StateM σ) α

/-- A result that is known, or a known failure. -/
def Attempt.ofExcept {σ α : Type} : Except Failure α → Attempt σ α
  | .ok result => return result
  | .error failure => throw failure

/-- A piece of output with the warnings that came up. -/
structure Fragment where
  /-- The output. -/
  text : String
  /-- The warnings in the order in which they came up. -/
  warnings : List Warning
deriving Repr, DecidableEq

namespace Fragment

/-- No output and no warnings. -/
def empty : Fragment := ⟨"", []⟩

/-- Output without warnings. -/
def ofText (text : String) : Fragment := ⟨text, []⟩

/-- A warning without output. -/
def ofWarning (warning : Warning) : Fragment := ⟨"", [warning]⟩

/-- One fragment behind another. -/
def append (first second : Fragment) : Fragment :=
  ⟨first.text ++ second.text, first.warnings ++ second.warnings⟩

/-- Nothing in front of a fragment changes it. -/
theorem empty_append (fragment : Fragment) : empty.append fragment = fragment := by
  simp [empty, append]

/-- Nothing behind a fragment changes it. -/
theorem append_empty (fragment : Fragment) : fragment.append empty = fragment := by
  simp [empty, append]

/-- Fragments are put one behind another in any grouping. -/
theorem append_assoc (first second third : Fragment) :
    (first.append second).append third = first.append (second.append third) := by
  simp [append, String.append_assoc]

/-- A fragment with warnings that came up before it. -/
def after (fragment : Fragment) (warnings : List Warning) : Fragment :=
  ⟨fragment.text, warnings ++ fragment.warnings⟩

end Fragment

/-- A line feed where one iteration has to be kept apart from the one before: when
its output holds a line feed and no line feed stands between the two. -/
def separator (previous : Option String) (chunk : String) : String :=
  match previous with
  | some text =>
    if '\n' ∈ chunk.toList ∧ text.toList.getLast? ≠ some '\n' ∧ chunk.toList.head? ≠ some '\n'
    then "\n" else ""
  | none => ""

/-- The outputs of iterations in order, kept apart where they have to be. -/
def joinChunks (previous : Option String) : List String → String
  | [] => ""
  | chunk :: rest => separator previous chunk ++ chunk ++ joinChunks (some chunk) rest

/-- The fragments of iterations as one. -/
def joinIterations (fragments : List Fragment) : Fragment :=
  ⟨joinChunks none (fragments.map Fragment.text), fragments.flatMap Fragment.warnings⟩

section Nodes

variable {σ : Type}

/-- Renders the items of a list from a position on. -/
def renderItems (render : Value → Nat → Attempt σ Fragment) (index : Nat) :
    List Value → Attempt σ (List Fragment)
  | [] => return []
  | item :: rest => do
    let first ← render item index
    let others ← renderItems render (index + 1) rest
    return first :: others

/-- The output of a call. A fault that the rendering does not recover from aborts it. -/
def renderCall (scope : Scope) (name source : String) : Except Failure Fragment :=
  match call scope.lookup name source with
  | .ok text => .ok (.ofText text)
  | .error fault =>
    match Warning.ofCall? name fault with
    | some warning => .ok (.ofWarning warning)
    | none => .error .aborted

/-- The text of a value that a path leads to. -/
def renderVariable (scope : Scope) (path : String) : Fragment :=
  match scope.lookup path with
  | some value => .ofText value.display
  | none => .empty

mutual

/-- Renders a node, given how a template is inserted. -/
def renderNode (insert : Scope → String → Attempt σ Fragment) (scope : Scope) :
    Node → Attempt σ Fragment
  | .text text => return .ofText text
  | .variable path => return renderVariable scope path
  | .call name source _ => .ofExcept (renderCall scope name source)
  | .choice branches none => renderBranches insert scope (return .empty) branches
  | .choice branches (some body) =>
    renderBranches insert scope (renderBody insert scope body) branches
  | .each path body =>
    match scope.lookup path with
    | some (.list items) => do
      let render (item : Value) (index : Nat) := renderBody insert (scope.enter item index) body
      return joinIterations (← renderItems render 0 items)
    | _ => return .empty
  | .block _ body => renderBody insert scope body
  | .inclusion name _ => insert scope name
  | .parent _ => return .empty
  | .unknown tag _ => return .ofWarning (.unknownTag tag)

/-- Renders nodes one behind another. -/
def renderBody (insert : Scope → String → Attempt σ Fragment) (scope : Scope) :
    List Node → Attempt σ Fragment
  | [] => return .empty
  | node :: rest => do
    let first ← renderNode insert scope node
    let others ← renderBody insert scope rest
    return first.append others

/-- Renders the body of the first branch whose condition holds. -/
def renderBranches (insert : Scope → String → Attempt σ Fragment) (scope : Scope)
    (otherwise : Attempt σ Fragment) : List (String × List Node) → Attempt σ Fragment
  | [] => otherwise
  | (condition, body) :: rest =>
    match judge scope.lookup condition with
    | .ok true => renderBody insert scope body
    | .ok false => renderBranches insert scope otherwise rest
    | .error fault => do
      let fragment ← renderBranches insert scope otherwise rest
      return fragment.after [.condition condition fault]

end

/-- A body is rendered one part behind another. -/
theorem renderBody_append {insert : Scope → String → Attempt σ Fragment} (scope : Scope)
    (first later : List Node) :
    renderBody insert scope (first ++ later) = do
      let fragment ← renderBody insert scope first
      let rest ← renderBody insert scope later
      return fragment.append rest := by
  induction first with
  | nil => simp only [List.nil_append, renderBody, pure_bind, Fragment.empty_append, bind_pure]
  | cons node first ih =>
    simp only [List.cons_append, renderBody, ih, bind_assoc, pure_bind, Fragment.append_assoc]

/-- A body of one node is rendered as the node is. -/
theorem renderBody_singleton {insert : Scope → String → Attempt σ Fragment} (scope : Scope)
    (node : Node) :
    renderBody insert scope [node] = renderNode insert scope node := by
  simp only [renderBody, pure_bind, Fragment.append_empty, bind_pure]

/-- Fetches a template by its name; there may be none. -/
abbrev Fetch (σ : Type) := String → Attempt σ (Option Compiled)

/-- The warning for an included text that is no template. -/
def malformedInclusion (name : String) (error : SyntaxError) : Warning :=
  .malformed ("in included template '" ++ name ++ "': " ++ error.message) error.line

/-- Inserts a template that was fetched, given how its own includes are inserted. -/
def insertFetched (insert : Scope → String → Attempt σ Fragment) (scope : Scope)
    (name : String) (fetched : Option Compiled) : Attempt σ Fragment :=
  match fetched with
  | none => return .ofWarning (.missingInclusion name)
  | some template =>
    match template.parsed with
    | .ok nodes => do
      let fragment ← renderBody insert scope nodes
      return fragment.after template.warnings
    | .error error =>
      return ⟨template.text, template.warnings ++ [malformedInclusion name error]⟩

/-- Inserts a template into the last one of a chain. Only `remaining` more templates
may join the chain, out of the `limit` that is reported. -/
def insertInto (fetch : Fetch σ) (limit : Nat) :
    (remaining : Nat) → (chain : List String) → Scope → String → Attempt σ Fragment
  | 0, chain, _, name =>
    if name ∈ chain then throw (.circular (chain ++ [name]))
    else throw (.tooDeep name limit)
  | remaining + 1, chain, scope, name =>
    if name ∈ chain then throw (.circular (chain ++ [name]))
    else do
      let fetched ← fetch name
      insertFetched (insertInto fetch limit remaining (chain ++ [name])) scope name fetched

/-- The chain that the rendering of a template starts with. Text that is not stored
has no name and does not count. -/
def startChain (name : String) : List String := if name = "" then [] else [name]

/-- Renders the tree of the template with the given name. -/
def renderTree (fetch : Fetch σ) (limit : Nat) (name : String) (context : Context)
    (nodes : List Node) : Attempt σ Fragment :=
  let chain := startChain name
  renderBody (insertInto fetch limit (limit + 1 - chain.length) chain) ⟨context, []⟩ nodes

end Nodes

/-- Where no templates are stored, there is none of any name. -/
def fetchNothing : Fetch Unit := fun _ => return none

end NoteTemplate.Template
