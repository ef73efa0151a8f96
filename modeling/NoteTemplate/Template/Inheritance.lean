import NoteTemplate.Fields
import NoteTemplate.Template.Parser

/-!
# Filling in a parent

A template can name a parent whose text it fills in: the bodies of its blocks take
the place of the bodies of the parent's blocks of the same names. This happens on
texts, before any tree is built. The tags of the parent's blocks stay in place, so
the result can be filled in again.
-/

namespace NoteTemplate.Template

open Text (dropFront? isBlank trim)

/-- A character of a block name or of a parent's name, as this module reads them. -/
def isNameCharacter (c : Char) : Bool := c != '"' && c != '\'' && c != '{' && c != '}'

/-- Reads one quotation mark of either kind. -/
def takeQuote? : List Char → Option (List Char)
  | c :: rest => if c = '"' ∨ c = '\'' then some rest else none
  | [] => none

/-- Reads white space, which has to be there. -/
def takeBlank? : List Char → Option (List Char)
  | c :: rest => if isBlank c then some (rest.dropWhile isBlank) else none
  | [] => none

/-- Reads the end of a tag with the white space before it. -/
def takeClosing? (text : List Char) : Option (List Char) :=
  dropFront? closing (text.dropWhile isBlank)

/-- Reads the start of a tag with the white space behind it. -/
def takeOpening? (text : List Char) : Option (List Char) :=
  (dropFront? opening text).map fun rest => rest.dropWhile isBlank

/-- Reads a name, which has at least one character. -/
def takeName? (text : List Char) : Option (List Char × List Char) :=
  let name := text.takeWhile isNameCharacter
  if name = [] then none else some (name, text.dropWhile isNameCharacter)

/-- Reads a tag that consists of a keyword and a quoted name. The two quotes need
not be of one kind. -/
def takeNamedTag? (keyword text : List Char) : Option (List Char × List Char) := do
  let text ← takeOpening? text
  let text ← dropFront? keyword text
  let text ← takeBlank? text
  let text ← takeQuote? text
  let (name, text) ← takeName? text
  let text ← takeQuote? text
  let text ← takeClosing? text
  return (name, text)

/-- Reads the tag that closes a block. -/
def takeBlockEnd? (text : List Char) : Option (List Char) := do
  let text ← takeOpening? text
  let text ← dropFront? "/block".toList text
  takeClosing? text

/-- Reads at most one line break behind spaces and tabs. -/
def dropLineBreak (text : List Char) : List Char :=
  let text := text.dropWhile fun c => c = ' ' || c = '\t'
  let text := match text with
    | '\r' :: rest => rest
    | other => other
  match text with
  | '\n' :: rest => rest
  | other => other

/-- Reads the tag that names the parent, with the line break behind it. -/
def takeParentTag? (text : List Char) : Option (List Char × List Char) :=
  (takeNamedTag? "extends".toList text).map fun (name, rest) => (name, dropLineBreak rest)

/-- The name of the parent in the first tag that names one. -/
def parentName? : List Char → Option String
  | [] => none
  | c :: rest =>
    match takeParentTag? (c :: rest) with
    | some (name, _) => some (String.ofList (trim name))
    | none => parentName? rest

/-- Removes the tags that name a parent, given how many characters of one that has
been read are still to come and what was kept so far in reverse. -/
def removeParentTags (reversed : List Char) (skipped : Nat) : List Char → List Char
  | [] => reversed.reverse
  | c :: rest =>
    match skipped with
    | skipped + 1 => removeParentTags reversed skipped rest
    | 0 =>
      match takeParentTag? (c :: rest) with
      | some (_, behind) => removeParentTags reversed (rest.length - behind.length) rest
      | none => removeParentTags (c :: reversed) 0 rest

/-- A part of a text as far as blocks are concerned. -/
inductive Mark where
  /-- Text outside the tags of blocks. -/
  | literal (text : List Char)
  /-- The tag that opens a block. -/
  | opens (source : List Char) (name : String)
  /-- The tag that closes a block. -/
  | closes (source : List Char)
deriving Repr, DecidableEq

/-- The text that a part was read from. -/
def Mark.source : Mark → List Char
  | .literal text => text
  | .opens source _ => source
  | .closes source => source

/-- The tag of a block at the front of a text. -/
def blockTag? (text : List Char) : Option (Mark × List Char) :=
  match takeNamedTag? "block".toList text with
  | some (name, behind) =>
    some (.opens (text.take (text.length - behind.length)) (String.ofList name), behind)
  | none =>
    (takeBlockEnd? text).map fun behind =>
      (.closes (text.take (text.length - behind.length)), behind)

/-- What follows a text at the front is shorter by that text. -/
theorem dropFront?_length {front text rest : List Char} (h : dropFront? front text = some rest) :
    text.length = front.length + rest.length := by
  induction front generalizing text with
  | nil =>
    simp [dropFront?] at h
    simp [h]
  | cons c front ih =>
    cases text with
    | nil => simp [dropFront?] at h
    | cons d text =>
      simp only [dropFront?] at h
      split at h
      · have := ih h
        simp
        omega
      · simp at h

/-- What follows the start of a tag is shorter. -/
theorem takeOpening?_length {text rest : List Char} (h : takeOpening? text = some rest) :
    rest.length < text.length := by
  unfold takeOpening? at h
  rw [Option.map_eq_some_iff] at h
  obtain ⟨behind, found, rfl⟩ := h
  have := dropFront?_length found
  have := (List.dropWhile_suffix (l := behind) isBlank).length_le
  simp [opening] at *
  omega

/-- What follows the end of a tag is no longer. -/
theorem takeClosing?_length {text rest : List Char} (h : takeClosing? text = some rest) :
    rest.length ≤ text.length := by
  unfold takeClosing? at h
  have := dropFront?_length h
  have := (List.dropWhile_suffix (l := text) isBlank).length_le
  omega

/-- What follows a quotation mark is no longer. -/
theorem takeQuote?_length {text rest : List Char} (h : takeQuote? text = some rest) :
    rest.length ≤ text.length := by
  unfold takeQuote? at h
  split at h
  · split at h <;> simp at h
    subst h
    simp
  · simp at h

/-- What follows white space is no longer. -/
theorem takeBlank?_length {text rest : List Char} (h : takeBlank? text = some rest) :
    rest.length ≤ text.length := by
  unfold takeBlank? at h
  split at h
  · rename_i c tail
    split at h <;> simp at h
    subst h
    have := (List.dropWhile_suffix (l := tail) isBlank).length_le
    simp
    omega
  · simp at h

/-- What follows a name is no longer. -/
theorem takeName?_length {text name rest : List Char} (h : takeName? text = some (name, rest)) :
    rest.length ≤ text.length := by
  simp only [takeName?] at h
  split at h
  · simp at h
  · simp at h
    rw [← h.2]
    exact (List.dropWhile_suffix (l := text) isNameCharacter).length_le

/-- What follows a tag with a name is shorter. -/
theorem takeNamedTag?_length {keyword text name rest : List Char}
    (h : takeNamedTag? keyword text = some (name, rest)) : rest.length < text.length := by
  simp only [takeNamedTag?, bind, Option.bind_eq_some_iff, pure, Option.some.injEq,
    Prod.mk.injEq] at h
  obtain ⟨first, opens, second, word, third, blank, fourth, quote, ⟨found, fifth⟩, named,
    sixth, unquote, seventh, closes, _, rfl⟩ := h
  have := takeOpening?_length opens
  have := dropFront?_length word
  have := takeBlank?_length blank
  have := takeQuote?_length quote
  have := takeName?_length named
  have := takeQuote?_length unquote
  have := takeClosing?_length closes
  simp only at *
  omega

/-- What follows the tag that closes a block is shorter. -/
theorem takeBlockEnd?_length {text rest : List Char} (h : takeBlockEnd? text = some rest) :
    rest.length < text.length := by
  simp only [takeBlockEnd?, bind, Option.bind_eq_some_iff] at h
  obtain ⟨first, opens, second, word, closes⟩ := h
  have := takeOpening?_length opens
  have := dropFront?_length word
  have := takeClosing?_length closes
  omega

/-- What follows the tag of a block is shorter. -/
theorem blockTag?_length {text behind : List Char} {mark : Mark}
    (h : blockTag? text = some (mark, behind)) : behind.length < text.length := by
  unfold blockTag? at h
  split at h
  · rename_i found
    simp at h
    obtain ⟨_, rfl⟩ := h
    exact takeNamedTag?_length found
  · rw [Option.map_eq_some_iff] at h
    obtain ⟨rest, found, same⟩ := h
    simp at same
    obtain ⟨_, rfl⟩ := same
    exact takeBlockEnd?_length found

/-- The parts of a text as far as blocks are concerned. -/
def marks (text : List Char) : List Mark :=
  match text with
  | [] => []
  | c :: rest =>
    match _found : blockTag? (c :: rest) with
    | some (mark, behind) => mark :: marks behind
    | none =>
      .literal (c :: rest.takeWhile (· != '{')) :: marks (rest.dropWhile (· != '{'))
termination_by text.length
decreasing_by
  · exact blockTag?_length ‹_›
  · have := (List.dropWhile_suffix (l := rest) (· != '{')).length_le
    simp
    omega

/-- The text that parts were read from. -/
def sourceOf (parts : List Mark) : List Char := parts.flatMap Mark.source

/-- Whether every block is closed, given how many are open, and none lies inside too
many others. -/
def isBalanced (depth : Nat) : List Mark → Bool
  | [] => depth = 0
  | .literal _ :: rest => isBalanced depth rest
  | .opens _ _ :: rest => depth < nestingLimit && isBalanced (depth + 1) rest
  | .closes _ :: rest =>
    match depth with
    | 0 => false
    | depth + 1 => isBalanced depth rest

/-- The text up to the tag that closes the block one is in, with the blocks that
were opened since and are still open. -/
def bodyBefore (depth : Nat) : List Mark → List Char
  | [] => []
  | .literal text :: rest => text ++ bodyBefore depth rest
  | .opens source _ :: rest => source ++ bodyBefore (depth + 1) rest
  | .closes source :: rest =>
    match depth with
    | 0 => []
    | depth + 1 => source ++ bodyBefore depth rest

/-- The names and bodies of all blocks in the order of their opening tags. -/
def definitions : List Mark → List (String × List Char)
  | [] => []
  | .opens _ name :: rest => (name, bodyBefore 0 rest) :: definitions rest
  | _ :: rest => definitions rest

/-- Collects definitions by name; of equal names the first wins. -/
def firstDefinitions : List (String × List Char) → Fields (List Char)
  | [] => []
  | (name, body) :: rest => Fields.insert name body (firstDefinitions rest)

/-- The bodies of the blocks of a text by name, if its blocks are balanced. -/
def blockBodies? (text : List Char) : Option (Fields (List Char)) :=
  let parts := marks text
  if isBalanced 0 parts then some (firstDefinitions (definitions parts)) else none

/-- Writes parts with new bodies for some blocks. While the old body of a block is
being left out, `leaving` counts the blocks to be closed before output goes on. -/
def fill (bodies : Fields (List Char)) (leaving : Option Nat) : List Mark → List Char
  | [] => []
  | mark :: rest =>
    match leaving, mark with
    | none, .opens source name =>
      match Fields.find? name bodies with
      | some body => source ++ body ++ fill bodies (some 0) rest
      | none => source ++ fill bodies none rest
    | none, other => other.source ++ fill bodies none rest
    | some depth, .literal _ => fill bodies (some depth) rest
    | some depth, .opens _ _ => fill bodies (some (depth + 1)) rest
    | some 0, .closes source => source ++ fill bodies none rest
    | some (depth + 1), .closes _ => fill bodies (some depth) rest

/-- A parent's text with the bodies of some of its blocks replaced. Of blocks inside
each other only the outermost counts. A text with unbalanced blocks stays as it is. -/
def merge (parent : List Char) (bodies : Fields (List Char)) : List Char :=
  let parts := marks parent
  if isBalanced 0 parts then fill bodies none parts else parent

/-- The names of the blocks of a text in ascending order. -/
def blockNames (text : List Char) : List String := ((blockBodies? text).getD []).names

/-- A text without the tags that name a parent. -/
def withoutParentTags (text : List Char) : List Char := removeParentTags [] 0 text

end NoteTemplate.Template
