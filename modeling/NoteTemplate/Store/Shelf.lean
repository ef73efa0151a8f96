import NoteTemplate.Fields
import NoteTemplate.Store.Name

/-!
# Shelves

A shelf is what a store of templates holds at one moment. It answers by name when a
template was last modified and what its text is, or why it cannot tell. Rendering only
ever looks at a shelf; a store is what can also be written to.
-/

namespace NoteTemplate

/-- A time of modification. Two texts of one template have different ones. -/
abbrev Stamp := Nat

/-- The text of a template as it is stored. -/
structure Source where
  /-- The text. -/
  text : String
  /-- When it was last modified. -/
  modified : Stamp
deriving Repr, DecidableEq

/-- The templates of a store at one moment. -/
structure Shelf where
  /-- When a template was last modified; none if there is no such template. -/
  modified : String → Except Failure (Option Stamp)
  /-- A template; none if there is no such template. -/
  read : String → Except Failure (Option Source)
  /-- The names of all templates in ascending order. -/
  names : Except Failure (List String)
  /-- A bound on how many templates there are. -/
  size : Nat

/-- Whether there is a template of a name. -/
def Shelf.contains (shelf : Shelf) (name : String) : Except Failure Bool :=
  (shelf.modified name).map Option.isSome

/-- A place where templates are stored. -/
class TemplateStore (m : Type → Type) where
  /-- What is stored now. -/
  shelf : m Shelf
  /-- Stores a text under a name, in place of what was there. -/
  write (name text : String) : m (Except Failure Unit)

/-- What a computation does behind one that is known. -/
theorem run_bind_of_run {σ α β : Type} {first : StateM σ α} {next : α → StateM σ β}
    {state after : σ} {value : α} (ran : first.run state = (value, after)) :
    (first >>= next).run state = (next value).run after := by
  rw [StateT.run_bind, ran]
  rfl

end NoteTemplate
