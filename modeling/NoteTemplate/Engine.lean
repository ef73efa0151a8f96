import NoteTemplate.Note
import NoteTemplate.Store.Loader

/-!
# Rendering stored templates

The templates of a shelf can include each other. A template is rendered by its name, and
a text that is not stored can be rendered among the stored templates as well.
-/

namespace NoteTemplate

open Calendar (Moment)
open Template (Compiled)

namespace Shelf

variable (shelf : Shelf)

/-- Renders a stored template; none if there is no such template. -/
def render (limit : Nat) (name : String) (context : Context) : Loading (Option Document) := do
  match ← shelf.load name with
  | none => return none
  | some template => return some (← renderCompiled shelf.fetch limit template context)

/-- Renders a text that is not stored and may include stored templates. -/
def renderText (limit : Nat) (text : String) (context : Context) : Loading Document :=
  renderCompiled shelf.fetch limit (Compiled.ofText "" text []) context

/-- Makes a note from a stored template; none if there is no such template. -/
def assemble (limit : Nat) (name : String) (context : Context) (now : Moment) :
    Loading (Option Note) := do
  match ← shelf.render limit name context with
  | none => return none
  | some document => return some (Note.ofDocument name document context now)

/-- Makes a note of a message from a stored template; none if there is no such template. -/
def assembleMessage (limit : Nat) (name : String) (message : Message)
    (analysis : Option Analysis) (extras : Context) (now : Moment) : Loading (Option Note) :=
  shelf.assemble limit name (noteContext now message analysis extras) now

end Shelf

end NoteTemplate
