/-!
# Template trees

The tree of a template: literal text, insertions, and groups with bodies.
-/

namespace NoteTemplate.Template

/-- A node of a template tree. -/
inductive Node where
  /-- Literal text. -/
  | text (text : String)
  /-- The value that a path leads to. -/
  | variable (path : String)
  /-- A function with the source of its arguments. -/
  | call (name : String) (arguments : String) (line : Nat)
  /-- The first branch whose condition holds, and a body for when none does. -/
  | choice (branches : List (String × List Node)) (otherwise : Option (List Node))
  /-- A body for every item of the list that a path leads to. -/
  | each (path : String) (body : List Node)
  /-- A named body. -/
  | block (name : String) (body : List Node)
  /-- Another template. -/
  | inclusion (name : String) (line : Nat)
  /-- The name of a parent, which shows nothing by itself. -/
  | parent (name : String)
  /-- A tag that means nothing and shows nothing. -/
  | unknown (tag : String) (line : Nat)
deriving Repr, Inhabited

namespace Node

mutual

/-- The node and every node below it, parents before children. -/
def flatten : Node → List Node
  | .choice branches none => .choice branches none :: flattenBranches branches
  | .choice branches (some body) =>
    .choice branches (some body) :: (flattenBranches branches ++ flattenAll body)
  | .each path body => .each path body :: flattenAll body
  | .block name body => .block name body :: flattenAll body
  | node => [node]

/-- All nodes of a body. -/
def flattenAll : List Node → List Node
  | [] => []
  | node :: rest => flatten node ++ flattenAll rest

/-- All nodes of the bodies of some branches. -/
def flattenBranches : List (String × List Node) → List Node
  | [] => []
  | (_, body) :: rest => flattenAll body ++ flattenBranches rest

end

end Node

/-- Some nodes include no template. -/
def IncludeNothing (nodes : List Node) : Prop :=
  ∀ included line, Node.inclusion included line ∉ nodes

end NoteTemplate.Template
