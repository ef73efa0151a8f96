import NoteTemplate.Files.Basic

/-!
# Files in memory

A tree of files is a value that keeps files and folders by their places. A path is followed
part by part, and each part but the last has to lead to a folder.
-/

namespace NoteTemplate

/-- Where something lies: the names on the way to it from the root, the last one first. -/
abbrev Place := List String

/-- What lies at a place. -/
inductive Entry where
  /-- A file with its bytes and the time of its last modification. -/
  | file (bytes : ByteArray) (modified : Nat)
  /-- A folder. -/
  | folder

/-- Whether something is a folder. -/
def Entry.isFolder : Entry → Bool
  | .folder => true
  | .file .. => false

/-- A tree of files. -/
structure FileTree where
  /-- Files and folders by their places, the latest first. The root is not listed. -/
  entries : List (Place × Entry) := []
  /-- The current folder. -/
  current : Place := []
  /-- The time that a file gets when it is written. -/
  now : Nat := 0

namespace FileTree

/-- What lies at a place. There is always a folder at the root. -/
def entry? (tree : FileTree) (place : Place) : Option Entry :=
  if place = [] then some .folder else tree.entries.lookup place

/-- Removes what lies at a place. -/
def remove (tree : FileTree) (place : Place) : FileTree :=
  { tree with entries := tree.entries.filter (·.1 ≠ place) }

/-- Puts something at a place, instead of what was there. -/
def put (tree : FileTree) (place : Place) (entry : Entry) : FileTree :=
  { tree with entries := (place, entry) :: (tree.remove place).entries }

/-- The place that a part leads to from a place, which has to be a folder. -/
def follow (tree : FileTree) (place : Place) (part : String) : Except FileFault Place :=
  match tree.entry? place with
  | none => .error .missing
  | some (.file ..) => .error .notFolder
  | some .folder =>
    if part = "" ∨ part = "." then .ok place
    else if part = ".." then .ok place.tail
    else if partLimit < part.utf8ByteSize then .error .longName
    else .ok (part :: place)

/-- Where a path starts. -/
def start (tree : FileTree) (path : String) : Place :=
  if Path.isRooted path then [] else tree.current

/-- The place that a path leads to. Something need not lie there. -/
def locate (tree : FileTree) (path : String) : Except FileFault Place :=
  match pathFault? path with
  | some fault => .error fault
  | none =>
    if path = "" then .error .missing
    else (Path.rawParts path).foldlM tree.follow (tree.start path)

/-- What lies where a path leads. -/
def find (tree : FileTree) (path : String) : Except FileFault (Place × Entry) := do
  let place ← tree.locate path
  match tree.entry? place with
  | some entry => return (place, entry)
  | none => throw .missing

/-- What a path leads to. -/
def status (tree : FileTree) (path : String) : Except FileFault FileStatus :=
  (tree.find path).map fun
    | (_, .file bytes modified) => .file bytes.size modified
    | (_, .folder) => .folder

/-- The bytes of a file. -/
def bytes (tree : FileTree) (path : String) : Except FileFault ByteArray := do
  match ← tree.find path with
  | (_, .file bytes _) => return bytes
  | (_, .folder) => throw .isFolder

/-- The name of what lies at a place, if that is right within a folder. -/
def nameWithin? (folder : Place) : Place → Option String
  | [] => none
  | name :: around => if around = folder then some name else none

/-- The names of what lies in a folder. -/
def names (tree : FileTree) (path : String) : Except FileFault (List String) := do
  match ← tree.find path with
  | (_, .file ..) => throw .notFolder
  | (place, .folder) => return tree.entries.filterMap fun (other, _) => nameWithin? place other

/-- The folder that the last part of a path is looked up in, with that part. -/
def locateLast (tree : FileTree) (path : String) : Except FileFault (Place × String) :=
  match pathFault? path, (Path.rawParts path).reverse with
  | some fault, _ => .error fault
  | none, [] => .error .missing
  | none, last :: before =>
    (before.reverse.foldlM tree.follow (tree.start path)).map fun place => (place, last)

/-- Makes a folder within one that exists. -/
def makeFolder (tree : FileTree) (path : String) : Except FileFault FileTree := do
  if path = "" then throw .missing
  else
    let (around, last) ← tree.locateLast (Path.withoutEndSlashes path)
    let place ← tree.follow around last
    if (last = "" ∨ last = "." ∨ last = "..") ∨ (tree.entry? place).isSome then throw .present
    else return tree.put place .folder

/-- Whether the last part of a path leads to a folder whatever lies there. -/
def endsInFolder (path last : String) : Bool :=
  path.toList.getLast? = some '/' || last = "" || last = "." || last = ".."

/-- The place where a file can be made or lies already. -/
def placeForFile (tree : FileTree) (path : String) : Except FileFault Place := do
  if path = "" then throw .missing
  else
    let (around, last) ← tree.locateLast (Path.withoutEndSlashes path)
    let around ← tree.follow around "."
    if endsInFolder path last then throw .isFolder
    else
      let place ← tree.follow around last
      if (tree.entry? place).any Entry.isFolder then throw .isFolder else return place

/-- Writes a file, in place of what it held. -/
def write (tree : FileTree) (path text : String) : Except FileFault FileTree :=
  (tree.placeForFile path).map fun place => tree.put place (.file text.toUTF8 tree.now)

/-- Makes an empty file unless there is one. -/
def touch (tree : FileTree) (path : String) : Except FileFault FileTree :=
  (tree.placeForFile path).map fun place =>
    if (tree.entry? place).isSome then tree else tree.put place (.file .empty tree.now)

/-- A change of a tree as a step that may fail and then changes nothing. -/
def step (change : FileTree → Except FileFault FileTree) (tree : FileTree) :
    Except FileFault Unit × FileTree :=
  match change tree with
  | .ok changed => (.ok (), changed)
  | .error fault => (.error fault, tree)

instance : Files (StateM FileTree) where
  status path := return (← get).status path
  bytes path := return (← get).bytes path
  names path := return (← get).names path
  makeFolder path := modifyGet (step (·.makeFolder path))
  write path text := modifyGet (step (·.write path text))
  touch path := modifyGet (step (·.touch path))

end FileTree

end NoteTemplate
