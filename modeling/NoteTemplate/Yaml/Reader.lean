import NoteTemplate.Yaml.Plain
import NoteTemplate.Yaml.Tree

/-!
# Reading YAML

`Yaml.read?` gives the JSON value of a YAML text. Keys are texts as they are written;
of equal keys the last one counts. References are followed where they stand, up to a
number of times that grows with the document, and collections are nested up to a
limit, so that no document grows without bound.
-/

namespace NoteTemplate.Yaml

/-- Collections may be nested this deep. -/
def depthLimit : Nat := 128

/-- References may be followed this often for every part of a document. -/
def referenceLimit : Nat := 100

mutual

/-- The number of parts of a node: scalars, references, and starts and ends of
collections. -/
def Tree.parts : Tree → Nat
  | .scalar .. | .alias _ => 1
  | .sequence _ items => 2 + partsOfItems items
  | .mapping _ entries => 2 + partsOfEntries entries

/-- The number of parts of the items of a list. -/
def partsOfItems : List Tree → Nat
  | [] => 0
  | item :: rest => item.parts + partsOfItems rest

/-- The number of parts of the entries of a mapping. -/
def partsOfEntries : List (Tree × Tree) → Nat
  | [] => 0
  | (key, value) :: rest => key.parts + value.parts + partsOfEntries rest

end

/-- A reading that may fail and that counts how often references may still be followed. -/
abbrev Reading := StateT Nat Option

/-- The node that a node stands for. -/
def follow (document : Document) : Tree → Reading Tree
  | .alias number => do
    match ← get with
    | 0 => failure
    | left + 1 =>
      set left
      liftM (document.target? number)
  | tree => return tree

/-- A tag of the standard set. -/
def standardTag (name : String) : String := "tag:yaml.org,2002:" ++ name

/-- The value of a scalar. A tag of the standard set asks for one kind of value, and
other global tags make it a text. -/
def scalarValue? (tag : Option String) (text : String) (isPlain : Bool) : Option Json :=
  let chars := text.toList
  match tag with
  | none => if isPlain then plainValue? chars else some (.string text)
  | some tag =>
    if tag = standardTag "bool" then (truth? chars).map .bool
    else if tag = standardTag "int" then
      match sized chars with
      | .value value => some (.int value)
      | _ => none
    else if tag = standardTag "float" then (double? chars).map Json.ofFloat
    else if tag = standardTag "null" then (if spellsNull chars then some .null else none)
    else some (.string text)

/-- Whether a tag is private to an application, which no reader here knows. -/
def isPrivate (tag : Option String) : Bool := tag.any fun text => text.toList.head? = some '!'

/-- The text of a key, whatever its tag. -/
def keyText (document : Document) (tree : Tree) : Reading String := do
  match ← follow document tree with
  | .scalar _ text _ => return text
  | _ => failure

/-- The value of a node, nested at most as deep as the first argument tells. -/
def treeValue (document : Document) : Nat → Tree → Reading Json
  | depth, tree => do
    match ← follow document tree with
    | .alias _ => failure
    | .scalar tag text isPlain =>
      if isPrivate tag then failure else liftM (scalarValue? tag text isPlain)
    | .sequence tag items =>
      match isPrivate tag, depth with
      | false, depth + 1 => return .array (← items.mapM (treeValue document depth))
      | _, _ => failure
    | .mapping tag entries =>
      match isPrivate tag, depth with
      | false, depth + 1 =>
        let fields ← entries.mapM fun (key, value) => do
          let name ← keyText document key
          return (name, ← treeValue document depth value)
        return .object (Fields.ofList fields)
      | _, _ => failure

/-- The value of a document. A text without a document is nothing. -/
def Document.value? (document : Document) : Option Json :=
  match document.root with
  | none => some .null
  | some root =>
    (·.1) <$> (treeValue document depthLimit root).run (root.parts * referenceLimit)

/-- The value of a YAML text, if the text has no fault. -/
def read? (text : String) : Option Json := do
  let tokens ← tokens? text.toList
  let document ← Document.ofTokens? tokens
  document.value?

end NoteTemplate.Yaml
