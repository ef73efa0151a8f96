import NoteTemplate.Fields
import NoteTemplate.Yaml.Token

/-!
# Trees of a YAML document

A pushdown reader turns tokens into the tree of a document. The collections that are
open lie on a stack; a node that is complete goes to the innermost of them. A text
holds at most one document.

A node can be named, and be referred to by its name later on. Names stand for
numbers while a document is read: a name that is new to the document, and also one
that is given again, gets as its number how many different names there were before.
Of the nodes with one number the one that starts last is meant, wherever the
reference stands.
-/

namespace NoteTemplate.Yaml

/-- A node of a YAML document. -/
inductive Tree where
  /-- A text; the flag tells a plain one. -/
  | scalar (tag : Option String) (text : String) (isPlain : Bool)
  /-- Nodes in order. -/
  | sequence (tag : Option String) (items : List Tree)
  /-- Keys with their values. -/
  | mapping (tag : Option String) (entries : List (Tree × Tree))
  /-- A reference by number. -/
  | alias (number : Nat)
deriving Inhabited

/-- A document with the nodes that are referred to. -/
structure Document where
  /-- The root; none if the text holds no document. -/
  root : Option Tree
  /-- The serials that numbers stand for, the newest first. -/
  serials : List (Nat × Nat)
  /-- The named nodes by their serials. -/
  named : List (Nat × Tree)

/-- The node that a number stands for. -/
def Document.target? (document : Document) (number : Nat) : Option Tree :=
  (document.serials.lookup number).bind fun serial => document.named.lookup serial

/-- What stands in front of a node. -/
structure Properties where
  /-- The tag. -/
  tag : Option String := none
  /-- The serial of the name. -/
  serial : Option Nat := none

/-- A collection that is open. -/
inductive Collection where
  /-- A list by indentation. -/
  | blockSequence (reversed : List Tree)
  /-- A list in a mapping at the indentation of the mapping. -/
  | indentless (reversed : List Tree)
  /-- A mapping by indentation, with the key whose value comes next. -/
  | blockMapping (reversed : List (Tree × Tree)) (key : Option Tree)
  /-- A list between brackets. -/
  | flowSequence (reversed : List Tree)
  /-- A mapping between braces, with the key whose value comes next. A key that the
  scanner did not recognise is bare; it has no value. -/
  | flowMapping (reversed : List (Tree × Tree)) (key : Option Tree) (isBare : Bool)
  /-- A key with its value between brackets. -/
  | flowPair (key : Option Tree) (value : Option Tree)

/-- A node of which nothing is written. -/
def emptyTree (tag : Option String) : Tree := .scalar tag "" true

/-- A collection with one more node. -/
def Collection.add (collection : Collection) (tree : Tree) : Collection :=
  match collection with
  | .blockSequence reversed => .blockSequence (tree :: reversed)
  | .indentless reversed => .indentless (tree :: reversed)
  | .blockMapping reversed none => .blockMapping reversed (some tree)
  | .blockMapping reversed (some key) => .blockMapping ((key, tree) :: reversed) none
  | .flowSequence reversed => .flowSequence (tree :: reversed)
  | .flowMapping reversed none false => .flowMapping reversed (some tree) false
  | .flowMapping reversed none true =>
    .flowMapping ((tree, emptyTree none) :: reversed) none false
  | .flowMapping reversed (some key) _ => .flowMapping ((key, tree) :: reversed) none false
  | .flowPair none _ => .flowPair (some tree) none
  | .flowPair (some key) _ => .flowPair (some key) (some tree)

/-- An open collection with what stands in front of it. -/
structure Frame where
  /-- What stands in front of it. -/
  properties : Properties
  /-- What was read of it. -/
  collection : Collection

/-- What a reader does next. -/
inductive Task where
  /-- Read a node. In block style collections by indentation are possible, and one kind
  of them only in a mapping. -/
  | node (inBlock inMapping : Bool)
  /-- Go on with the innermost collection, of which nothing was read yet. -/
  | first
  /-- Go on with the innermost collection. -/
  | resume
  /-- Hand a node to the innermost collection. -/
  | deliver (tree : Tree)

/-- A reader between two steps. -/
structure TreeReader where
  /-- The unread tokens. -/
  tokens : List Token
  /-- What to do next. -/
  task : Task
  /-- The open collections, innermost first. -/
  frames : List Frame := []
  /-- The handles for the start of tags. -/
  handles : List (String × String)
  /-- The numbers of names. -/
  numbers : Fields Nat := []
  /-- The serials of numbers, the newest first. -/
  serials : List (Nat × Nat) := []
  /-- The named nodes that are complete. -/
  named : List (Nat × Tree) := []

namespace TreeReader

/-- Goes on with a task and the given tokens. -/
def continue_ (reader : TreeReader) (task : Task) (tokens : List Token) : TreeReader :=
  { reader with task := task, tokens := tokens }

/-- Completes a node: it is stored if it is named, and handed on. -/
def complete (reader : TreeReader) (properties : Properties) (tree : Tree)
    (tokens : List Token) : TreeReader :=
  let named := match properties.serial with
    | some serial => (serial, tree) :: reader.named
    | none => reader.named
  { reader with named := named, task := .deliver tree, tokens := tokens }

/-- Opens a collection. -/
def open_ (reader : TreeReader) (properties : Properties) (collection : Collection)
    (tokens : List Token) : TreeReader :=
  { reader with
    frames := ⟨properties, collection⟩ :: reader.frames, task := .first, tokens := tokens }

/-- Names the node that follows. -/
def assign (reader : TreeReader) (name : String) : Nat × TreeReader :=
  let number := reader.numbers.length
  let serial := reader.serials.length
  (serial,
    { reader with
      numbers := Fields.insert name number reader.numbers
      serials := (number, serial) :: reader.serials })

/-- The full text of a tag. -/
def resolveTag? (reader : TreeReader) (handle rest : String) : Option String :=
  if handle = "" then some rest else (reader.handles.lookup handle).map (· ++ rest)

/-- Reads what stands in front of a node: a name and a tag in either order, each at most
once. The flag tells whether there is anything. -/
def readProperties? (reader : TreeReader) :
    Option (Properties × Bool × TreeReader) :=
  match reader.tokens with
  | .anchor name :: .tag handle rest :: left | .tag handle rest :: .anchor name :: left => do
    let tag ← reader.resolveTag? handle rest
    let (serial, reader) := reader.assign name
    return ({ tag := tag, serial := serial }, true, { reader with tokens := left })
  | .anchor name :: left =>
    let (serial, reader) := reader.assign name
    some ({ serial := serial }, true, { reader with tokens := left })
  | .tag handle rest :: left => do
    let tag ← reader.resolveTag? handle rest
    return ({ tag := tag }, true, { reader with tokens := left })
  | _ => some ({}, false, reader)

/-- The tag of a scalar and whether it counts as plain: an exclamation mark alone takes
the tag away and makes any scalar plain. -/
def scalarOf (properties : Properties) (text : String) (isPlain : Bool) : Tree :=
  if properties.tag = some "!" then .scalar none text true
  else .scalar properties.tag text isPlain

/-- Reads the start of a node. -/
def readNode? (reader : TreeReader) (inBlock inMapping : Bool) : Option TreeReader :=
  match reader.tokens with
  | .alias name :: rest => do
    let number ← reader.numbers.find? name
    return reader.continue_ (.deliver (.alias number)) rest
  | _ => do
    let (properties, hasAny, reader) ← reader.readProperties?
    match reader.tokens with
    | .scalar text isPlain :: rest =>
      return reader.complete properties (scalarOf properties text isPlain) rest
    | .flowSequence :: rest => return reader.open_ properties (.flowSequence []) rest
    | .flowMapping :: rest => return reader.open_ properties (.flowMapping [] none false) rest
    | .blockSequence :: rest =>
      if inBlock then return reader.open_ properties (.blockSequence []) rest
      else if hasAny then
        return reader.complete properties (emptyTree properties.tag) reader.tokens
      else none
    | .blockMapping :: rest =>
      if inBlock then return reader.open_ properties (.blockMapping [] none) rest
      else if hasAny then
        return reader.complete properties (emptyTree properties.tag) reader.tokens
      else none
    | .blockEntry :: _ =>
      if inMapping then return reader.open_ properties (.indentless []) reader.tokens
      else if hasAny then
        return reader.complete properties (emptyTree properties.tag) reader.tokens
      else none
    | tokens =>
      if hasAny then return reader.complete properties (emptyTree properties.tag) tokens else none

/-- Hands nothing to the innermost collection. -/
def deliverEmpty (reader : TreeReader) (tokens : List Token) : TreeReader :=
  reader.continue_ (.deliver (emptyTree none)) tokens

/-- Closes the innermost collection. -/
def close (reader : TreeReader) (properties : Properties) (tree : Tree) (outer : List Frame)
    (tokens : List Token) : TreeReader :=
  { reader with frames := outer }.complete properties tree tokens

/-- A token behind which a block list has an empty item. -/
def endsItem : Token → Bool
  | .blockEntry | .blockEnd => true
  | _ => false

/-- A token behind which a block mapping has an empty key or value. -/
def endsField : Token → Bool
  | .key | .value | .blockEnd => true
  | _ => false

/-- Goes on with an item, unless a token of a class ends it. -/
def itemUnless (reader : TreeReader) (ends : Token → Bool) (inBlock inMapping : Bool)
    (tokens : List Token) : TreeReader :=
  if tokens.head?.any ends then reader.deliverEmpty tokens
  else reader.continue_ (.node inBlock inMapping) tokens

/-- Goes on with the innermost collection. -/
def resume? (reader : TreeReader) (isFirst : Bool) : Option TreeReader :=
  match reader.frames with
  | [] => none
  | ⟨properties, collection⟩ :: outer =>
    match collection, reader.tokens with
    | .blockSequence _, .blockEntry :: rest =>
      some (reader.itemUnless endsItem true false rest)
    | .blockSequence reversed, .blockEnd :: rest =>
      some (reader.close properties (.sequence properties.tag reversed.reverse) outer rest)
    | .blockSequence _, _ => none
    | .indentless _, .blockEntry :: rest =>
      some (reader.itemUnless (fun token => endsItem token || endsField token) true false rest)
    | .indentless reversed, tokens =>
      some (reader.close properties (.sequence properties.tag reversed.reverse) outer tokens)
    | .blockMapping _ none, .key :: rest => some (reader.itemUnless endsField true true rest)
    | .blockMapping reversed none, .blockEnd :: rest =>
      some (reader.close properties (.mapping properties.tag reversed.reverse) outer rest)
    | .blockMapping _ none, _ => none
    | .blockMapping _ (some _), .value :: rest =>
      some (reader.itemUnless endsField true true rest)
    | .blockMapping _ (some _), tokens => some (reader.deliverEmpty tokens)
    | .flowSequence reversed, tokens => do
      let tokens ←
        match isFirst, tokens with
        | true, tokens => some tokens
        | false, .flowSequenceEnd :: rest => some (.flowSequenceEnd :: rest)
        | false, .flowEntry :: rest => some rest
        | false, _ => none
      match tokens with
      | .flowSequenceEnd :: rest =>
        return reader.close properties (.sequence properties.tag reversed.reverse) outer rest
      | .key :: rest => return reader.open_ {} (.flowPair none none) rest
      | tokens => return reader.continue_ (.node false false) tokens
    | .flowPair none _, tokens =>
      match tokens with
      | .value :: rest | .flowEntry :: rest | .flowSequenceEnd :: rest =>
        some (reader.deliverEmpty rest)
      | tokens => some (reader.continue_ (.node false false) tokens)
    | .flowPair (some _) none, tokens =>
      match tokens with
      | .value :: .flowEntry :: rest => some (reader.deliverEmpty (.flowEntry :: rest))
      | .value :: .flowSequenceEnd :: rest => some (reader.deliverEmpty (.flowSequenceEnd :: rest))
      | .value :: rest => some (reader.continue_ (.node false false) rest)
      | tokens => some (reader.deliverEmpty tokens)
    | .flowPair (some key) (some value), tokens =>
      some (reader.close properties (.mapping properties.tag [(key, value)]) outer tokens)
    | .flowMapping reversed none _, tokens => do
      let tokens ←
        match isFirst, tokens with
        | true, tokens => some tokens
        | false, .flowMappingEnd :: rest => some (.flowMappingEnd :: rest)
        | false, .flowEntry :: rest => some rest
        | false, _ => none
      match tokens with
      | .flowMappingEnd :: rest =>
        return reader.close properties (.mapping properties.tag reversed.reverse) outer rest
      | .key :: rest =>
        match rest with
        | .value :: _ | .flowEntry :: _ | .flowMappingEnd :: _ => return reader.deliverEmpty rest
        | rest => return reader.continue_ (.node false false) rest
      | tokens =>
        return { reader.continue_ (.node false false) tokens with
          frames := ⟨properties, .flowMapping reversed none true⟩ :: outer }
    | .flowMapping _ (some _) _, tokens =>
      match tokens with
      | .value :: .flowEntry :: rest => some (reader.deliverEmpty (.flowEntry :: rest))
      | .value :: .flowMappingEnd :: rest => some (reader.deliverEmpty (.flowMappingEnd :: rest))
      | .value :: rest => some (reader.continue_ (.node false false) rest)
      | tokens => some (reader.deliverEmpty tokens)

/-- Hands a node to the innermost collection. -/
def receive (reader : TreeReader) (tree : Tree) (frame : Frame) (outer : List Frame) :
    TreeReader :=
  { reader with
    frames := { frame with collection := frame.collection.add tree } :: outer, task := .resume }

/-- Reads until a node is complete that lies in no collection. -/
def run (steps : Nat) (reader : TreeReader) : Option (Tree × TreeReader) :=
  match steps with
  | 0 => none
  | steps + 1 =>
    match reader.task with
    | .node inBlock inMapping => (reader.readNode? inBlock inMapping).bind (run steps)
    | .first => (reader.resume? true).bind (run steps)
    | .resume => (reader.resume? false).bind (run steps)
    | .deliver tree =>
      match reader.frames with
      | [] => some (tree, reader)
      | frame :: outer => run steps (reader.receive tree frame outer)

end TreeReader

/-- The handles that every document knows. -/
def defaultHandles : List (String × String) := [("!", "!"), ("!!", "tag:yaml.org,2002:")]

/-- Reads the directives before a document. A version is given at most once, and so is
each handle. -/
def readDirectives? (hasVersion : Bool) (handles : List (String × String)) :
    List Token → Option (List (String × String) × List Token)
  | .version major minor :: rest =>
    if hasVersion ∨ major ≠ 1 ∨ (minor ≠ 1 ∧ minor ≠ 2) then none
    else readDirectives? true handles rest
  | .handle handle start :: rest =>
    if (handles.lookup handle).isSome then none
    else readDirectives? hasVersion (handles ++ [(handle, start)]) rest
  | tokens => some (handles, tokens)

/-- Whether a document that was opened by a line of its own has no content. -/
def isContentless : List Token → Bool
  | [] => true
  | token :: _ =>
    match token with
    | .documentStart | .documentEnd | .version _ _ | .handle _ _ => true
    | _ => false

/-- A bound on the steps that the reader takes: between two tokens it finishes at most
the values and collections that are left open. -/
def stepLimit (tokens : List Token) : Nat := 8 * (tokens.length + 1)

/-- Reads a document whose first token may be the line before it. -/
def readDocument? (handles : List (String × String)) (tokens : List Token) :
    Option (Document × List Token) := do
  let (isContentless, tokens) :=
    match tokens with
    | .documentStart :: rest => (isContentless rest, rest)
    | tokens => (false, tokens)
  if isContentless then return (⟨some (emptyTree none), [], []⟩, tokens)
  else
    let reader : TreeReader :=
      { tokens := tokens, task := .node true false, handles := handles ++ defaultHandles }
    let (root, reader) ← reader.run (stepLimit tokens)
    return (⟨some root, reader.serials, reader.named⟩, reader.tokens)

/-- Whether a token is the line behind a document. -/
def Token.isDocumentEnd : Token → Bool
  | .documentEnd => true
  | _ => false

/-- The document of a token list, which holds at most one. -/
def Document.ofTokens? (tokens : List Token) : Option Document :=
  if tokens.isEmpty then some ⟨none, [], []⟩
  else do
    let (handles, behind) ← readDirectives? false [] tokens
    guard (behind.length = tokens.length || behind.head? = some .documentStart)
    let (document, rest) ← readDocument? handles behind
    guard (rest.dropWhile Token.isDocumentEnd).isEmpty
    return document

end NoteTemplate.Yaml
