import NoteTemplate.Text.Pieces

/-!
# Paths

A path names files and folders by the parts between its slashes. One that starts with a
slash starts at the root, any other one at the current folder. Empty parts and single dots
lead nowhere, and two dots lead to the folder around.
-/

namespace NoteTemplate.Path

/-- A path below another. One that starts at the root stays what it is. -/
def join (base path : String) : String :=
  match path.toList.head?, base.toList.getLast? with
  | some '/', _ | _, none => path
  | _, some '/' => base ++ path
  | _, some _ => base ++ "/" ++ path

/-- All parts of a path, with those that lead nowhere. -/
def rawParts (path : String) : List String :=
  (Text.splitOn '/' path.toList).map String.ofList

/-- Whether a path starts at the root. -/
def isRooted (path : String) : Bool := path.toList.head? = some '/'

/-- The parts of a path that lead somewhere. -/
def parts (path : String) : List String :=
  (rawParts path).filter fun part => part ≠ "" ∧ part ≠ "."

/-- The path without its last part. There is none of the root and of the empty path. -/
def parent? (path : String) : Option String :=
  match (parts path).reverse with
  | [] => if path = "" ∨ isRooted path then none else some ""
  | _ :: before =>
    let rest := Text.joined "/" before.reverse
    some (if isRooted path then "/" ++ rest else rest)

/-- A path without the slashes at its end. -/
def withoutEndSlashes (path : String) : String :=
  String.ofList (path.toList.reverse.dropWhile (· = '/')).reverse

/-- The name that a file has without a given ending. -/
def nameBefore? (ending fileName : String) : Option String :=
  (Text.dropFront? ending.toList.reverse fileName.toList.reverse).map fun name =>
    String.ofList name.reverse

end NoteTemplate.Path
