import NoteTemplate.Value.Json

/-!
# Contexts and scopes

A context binds names to values for one rendering. A scope is a context with the
items that the surrounding iterations are at. A dotted path starts with a name
and goes on with field names and list positions.
-/

namespace NoteTemplate

/-- The values bound for one rendering, in ascending order of their names. -/
structure Context where
  /-- The bindings. -/
  fields : Fields Value := []
deriving Inhabited

namespace Context

/-- A context that binds nothing. -/
def empty : Context := {}

/-- Binds a name, in place of what it was bound to. -/
def insert (context : Context) (name : String) (value : Value) : Context :=
  ⟨Fields.insert name value context.fields⟩

/-- The value of a name. -/
def get? (context : Context) (name : String) : Option Value := Fields.find? name context.fields

/-- Takes over all bindings of another context. -/
def extend (context more : Context) : Context := ⟨Fields.extend context.fields more.fields⟩

/-- Collects bindings; of equal names the last wins. -/
def ofList (bindings : List (String × Value)) : Context := ⟨Fields.ofList bindings⟩

/-- The fields of a JSON object as bindings; anything else binds nothing. -/
def ofJson (json : Json) : Context :=
  match Value.ofJson json with
  | .map fields => ⟨fields⟩
  | _ => empty

/-- All bindings as a JSON object. -/
def toJson (context : Context) : Json := (Value.map context.fields).toJson

/-- Whether two contexts bind the same names to values that agree. -/
def agrees (left right : Context) : Bool := Value.agreeFields left.fields right.fields

/-- The value that a path of segments leads to. -/
def resolve (context : Context) : List String → Option Value
  | [] => none
  | first :: rest => (context.get? first).bind (Value.descend rest)

/-- The value that a dotted path leads to. -/
def lookup (context : Context) (path : String) : Option Value :=
  context.resolve (pathSegments path)

end Context

/-- One iteration: the item it is at, and the position of the item. -/
structure Frame where
  /-- The current item. -/
  item : Value
  /-- The position of the item, counted from zero. -/
  index : Nat

/-- What a path of segments means within one iteration. The fields of the item come
first, then the names of the position and of the item itself. -/
def Frame.resolve (frame : Frame) : List String → Option Value
  | [] => none
  | first :: rest =>
    match frame.item.field? first with
    | some field => Value.descend rest field
    | none =>
      if first = "@index" then
        if rest = [] then some (Value.ofNat frame.index) else none
      else if first = "@item" ∨ first = "this" then Value.descend rest frame.item
      else none

/-- A context with the iterations that surround the current place, innermost first. -/
structure Scope where
  /-- The values bound for the whole rendering. -/
  context : Context
  /-- The iterations, innermost first. -/
  frames : List Frame := []

namespace Scope

/-- The scope inside one more iteration. -/
def enter (scope : Scope) (item : Value) (index : Nat) : Scope :=
  { scope with frames := ⟨item, index⟩ :: scope.frames }

/-- The value that a dotted path leads to: the innermost iteration that knows it
decides, and the context if none does. -/
def lookup (scope : Scope) (path : String) : Option Value :=
  let segments := pathSegments path
  (scope.frames.findSome? fun frame => frame.resolve segments).or
    (scope.context.resolve segments)

end Scope

/-- A way to find the value of a dotted path. -/
abbrev Lookup := String → Option Value

end NoteTemplate
