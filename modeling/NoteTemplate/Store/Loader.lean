import NoteTemplate.Store.Cache
import NoteTemplate.Template.Inheritance
import NoteTemplate.Template.Rendering

/-!
# Loading stored templates

A stored template is prepared by filling in its parent, the parent's parent and so on.
The names met on the way form a chain, and no name may occur in it twice. What was
prepared is cached with the stamps of all templates that were looked up, the missing
ones included.
-/

namespace NoteTemplate

open Template (Attempt Compiled Warning)

/-- A computation with a cache that may fail. -/
abbrev Loading (α : Type) := Attempt Cache α

namespace Shelf

variable (shelf : Shelf)

/-- Whether all names still have the stamps that are given. -/
def isCurrent (stamps : List NameStamp) : Bool :=
  stamps.all fun (name, stamp) =>
    match shelf.modified name with
    | .ok now => now = stamp
    | .error _ => false

/-- The text of a template with its stamp, from the cache if it is there. -/
def source (name : String) : Loading (Option Source) := do
  match ← Attempt.ofExcept (shelf.modified name) with
  | none => return none
  | some modified =>
    match (← get).source? name modified with
    | some text => return some ⟨text, modified⟩
    | none =>
      match ← Attempt.ofExcept (shelf.read name) with
      | none => return none
      | some source =>
        modify fun cache => cache.storeSource name source
        return some source

end Shelf

/-- A text with its parents filled in. -/
structure Resolved where
  /-- The text; none if there is no such template. -/
  text : Option String
  /-- The names that were looked up. -/
  stamps : List NameStamp
  /-- The parents that were not found. -/
  warnings : List Warning

/-- Fills a parent in. A text with unbalanced blocks stays as it is, and so does one whose
parent is missing. -/
def fillIn (name parent : String) (source : Source) (above : Resolved) : Resolved :=
  let child := Template.withoutParentTags source.text.toList
  let stamps := (name, some source.modified) :: above.stamps
  match Template.blockBodies? child, above.text with
  | none, _ => ⟨some (String.ofList child), stamps, above.warnings⟩
  | some bodies, some text =>
    ⟨some (String.ofList (Template.merge text.toList bodies)), stamps, above.warnings⟩
  | some _, none =>
    ⟨some (String.ofList child), stamps, above.warnings ++ [.missingParent name parent]⟩

namespace Shelf

variable (shelf : Shelf)

/-- Resolves a template below the templates of a chain, which are not met again. Every
step adds a stored template to the chain, so there are at most as many steps as
templates, and one more that finds none. -/
def resolveBelow (steps : Nat) (chain : List String) (name : String) : Loading Resolved := do
  match ← shelf.source name with
  | none => return ⟨none, [(name, none)], []⟩
  | some source =>
    match Template.parentName? source.text.toList with
    | none => return ⟨some source.text, [(name, some source.modified)], []⟩
    | some parent =>
      let chain := chain ++ [name]
      if parent ∈ chain then throw (.circular (chain ++ [parent]))
      else if isTemplateName parent then
        match steps with
        | 0 => return fillIn name parent source ⟨none, [], []⟩
        | steps + 1 => return fillIn name parent source (← resolveBelow steps chain parent)
      else return fillIn name parent source ⟨none, [], []⟩

/-- Resolves a template. -/
def resolve (name : String) : Loading Resolved := shelf.resolveBelow shelf.size [] name

/-- A template that is ready to be rendered; none if there is no such template. -/
def load (name : String) : Loading (Option Compiled) := do
  Attempt.ofExcept (checkName name)
  match ← modifyGet fun cache => cache.lookup name shelf.isCurrent with
  | some template => return some template
  | none =>
    let resolved ← shelf.resolve name
    match resolved.text with
    | none => return none
    | some text =>
      let template := Compiled.ofText name text resolved.warnings
      modify fun cache => cache.storeCompiled name ⟨resolved.stamps, template⟩
      return some template

/-- The text of a template with its parents filled in. -/
def loadText (name : String) : Loading (Option String) := do
  return (← shelf.load name).map Compiled.text

/-- A template to be included. There is none of a name that no template can have. -/
def fetch (name : String) : Loading (Option Compiled) :=
  if isTemplateName name then shelf.load name else return none

end Shelf

end NoteTemplate
