import NoteTemplate.Context

/-!
# The current item

Inside an iteration two names lead to the current item, unless it has a field of that name
(`Scope.lookup_itemName`). A path behind such a name is looked for in the current item first and, if
the item does not have it, in the scope outside the iteration (`Scope.lookup_itemPath`). So it leads
from the innermost item that has the path (`Scope.lookup_itemPath_stack`), which need not be the
current one.
-/

namespace NoteTemplate

/-! ## Dotted paths -/

/-- The segments of a path behind a name. -/
theorem pathSegments_dotted {name : String} (single : '.' ∉ name.toList) (path : String) :
    pathSegments (name ++ "." ++ path) = name :: pathSegments path := by
  have text : (name ++ "." ++ path).toList = name.toList ++ '.' :: path.toList := by
    simp
  rw [pathSegments, text, Text.splitOn_middle, Text.splitOn_of_not_mem single,
    List.singleton_append, List.map_cons, String.ofList_toList, pathSegments]

/-! ## Names of the current item -/

/-- The names that lead to the current item. -/
def itemNames : List String := ["@item", "this"]

/-- The names of the current item are single segments. -/
theorem single_of_mem_itemNames {name : String} (isName : name ∈ itemNames) :
    '.' ∉ name.toList := by
  have all : ∀ name ∈ itemNames, '.' ∉ name.toList := by decide
  exact all name isName

/-- Within one iteration a path behind a name of the item leads from the item. -/
theorem Frame.resolve_itemName {frame : Frame} {name : String} (isName : name ∈ itemNames)
    (unbound : frame.item.field? name = none) (segments : List String) :
    frame.resolve (name :: segments) = Value.descend segments frame.item := by
  have noPosition : name ≠ "@index" := by
    rintro rfl
    exact absurd isName (by decide)
  have either : name = "@item" ∨ name = "this" := by
    simpa [itemNames] using isName
  simp only [Frame.resolve, unbound, if_neg noPosition, if_pos either]

namespace Scope

/-- The innermost iteration that knows a path decides. -/
theorem lookup_cons (context : Context) (frame : Frame) (outer : List Frame) (path : String) :
    lookup ⟨context, frame :: outer⟩ path =
      (frame.resolve (pathSegments path)).or (lookup ⟨context, outer⟩ path) := by
  simp only [lookup, List.findSome?_cons]
  cases frame.resolve (pathSegments path) with
  | none => rw [Option.none_or]
  | some value => rfl

/-- A name of the current item leads to it. -/
theorem lookup_itemName (context : Context) {frame : Frame} (outer : List Frame) {name : String}
    (isName : name ∈ itemNames) (unbound : frame.item.field? name = none) :
    lookup ⟨context, frame :: outer⟩ name = some frame.item := by
  have segments : pathSegments name = [name] := by
    have all : ∀ name ∈ itemNames, pathSegments name = [name] := by decide +kernel
    exact all name isName
  rw [lookup_cons, segments, Frame.resolve_itemName isName unbound]
  rfl

/-- A path behind a name of the current item leads from the innermost item that has it, and if none
has it, to what it means in the context. -/
theorem lookup_itemPath_stack (context : Context) {frames : List Frame} {name : String}
    (isName : name ∈ itemNames) (unbound : ∀ frame ∈ frames, frame.item.field? name = none)
    (path : String) :
    lookup ⟨context, frames⟩ (name ++ "." ++ path) =
      (frames.findSome? fun frame => Value.descend (pathSegments path) frame.item).or
        (context.resolve (name :: pathSegments path)) := by
  have segments := pathSegments_dotted (single_of_mem_itemNames isName) path
  induction frames with
  | nil => rw [lookup, segments, List.findSome?_nil, List.findSome?_nil]
  | cons frame outer ih =>
    obtain ⟨here, later⟩ := List.forall_mem_cons.1 unbound
    rw [lookup_cons, segments, Frame.resolve_itemName isName here, ih later, List.findSome?_cons]
    cases Value.descend (pathSegments path) frame.item with
    | none => rw [Option.none_or]
    | some value => rfl

/-- A path behind a name of the current item leads where it leads from the item. If the item does
not have the path, it leads where it leads outside the iteration. So it is looked up in the item
alone exactly if the item has the path, or nothing outside the iteration has it either. -/
theorem lookup_itemPath (context : Context) {frame : Frame} (outer : List Frame) {name : String}
    (isName : name ∈ itemNames) (unbound : frame.item.field? name = none) (path : String) :
    lookup ⟨context, frame :: outer⟩ (name ++ "." ++ path) =
        (Value.descend (pathSegments path) frame.item).or
          (lookup ⟨context, outer⟩ (name ++ "." ++ path)) ∧
      (lookup ⟨context, frame :: outer⟩ (name ++ "." ++ path) =
          Value.descend (pathSegments path) frame.item ↔
        (Value.descend (pathSegments path) frame.item).isSome ∨
          lookup ⟨context, outer⟩ (name ++ "." ++ path) = none) := by
  have segments := pathSegments_dotted (single_of_mem_itemNames isName) path
  have either : lookup ⟨context, frame :: outer⟩ (name ++ "." ++ path) =
      (Value.descend (pathSegments path) frame.item).or
        (lookup ⟨context, outer⟩ (name ++ "." ++ path)) := by
    rw [lookup_cons, segments, Frame.resolve_itemName isName unbound]
  refine ⟨either, ?_⟩
  rw [either]
  cases Value.descend (pathSegments path) frame.item with
  | none => simp
  | some value => simp

/-- The name of an item that lies in another item, which has a name as well. -/
theorem lookup_innerName :
    let inner : Value := .map [("name", .string "inner")]
    let outer : Value := .map [("name", .string "outer")]
    Value.descend ["name"] inner = some (.string "inner") ∧
      lookup ⟨.empty, [⟨inner, 0⟩, ⟨outer, 1⟩]⟩ "this.name" = some (.string "inner") := by
  intro inner outer
  have descended : Value.descend (pathSegments "name") inner = some (.string "inner") := by rfl
  have isName : "this" ∈ itemNames := by decide
  have unbound : (Frame.mk inner 0).item.field? "this" = none := by rfl
  have found := lookup_itemPath .empty [⟨outer, 1⟩] isName unbound "name"
  have present : (Value.descend (pathSegments "name") inner).isSome := by rw [descended]; rfl
  exact ⟨by rfl, (found.2.2 (.inl present)).trans descended⟩

example :
    let inner : Value := .map [("size", .int 1)]
    let outer : Value := .map [("name", .string "outer")]
    Scope.lookup ⟨.empty, [⟨inner, 0⟩, ⟨outer, 1⟩]⟩ "this.name" = some (.string "outer") := by rfl

end Scope

end NoteTemplate
