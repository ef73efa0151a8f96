import NoteTemplate.Text.Blank
import NoteTemplate.Text.Character
import NoteTemplate.Text.Pieces

/-!
# Tokens of a template

A template is text with tags. A tag is the shortest stretch between two opening
braces and two closing braces; whatever does not lie in one is literal text.
`pieces` cuts a text into literal stretches and the contents of tags, so that
writing the pieces out again gives the text; `Token.ofTag` says what the content
of a tag means; `tokens` does both and numbers the lines.
-/

namespace NoteTemplate.Template

open Text (cutBefore? isBlank isNameStart isWordCharacter splitWord trim)

/-- What a piece of a template means. -/
inductive Token where
  /-- Literal text. -/
  | text (text : String)
  /-- The start of a choice and the condition of its first branch. -/
  | choice (condition : String)
  /-- The condition of another branch. -/
  | branch (condition : String)
  /-- The branch that is taken when no other is. -/
  | otherwise
  /-- The end of a choice. -/
  | endChoice
  /-- The start of an iteration over the list that a path leads to. -/
  | each (path : String)
  /-- The end of an iteration. -/
  | endEach
  /-- The start of a named block. -/
  | block (name : String)
  /-- The end of a block. -/
  | endBlock
  /-- The template whose layout this one fills in. -/
  | parent (name : String)
  /-- Another template to be inserted. -/
  | inclusion (name : String)
  /-- A function with the source of its arguments. -/
  | call (name : String) (arguments : String)
  /-- A value to be inserted. -/
  | variable (path : String)
  /-- A tag that means nothing. -/
  | unknown (tag : String)
deriving Repr, DecidableEq, Inhabited

/-- The two braces that open a tag. -/
def opening : List Char := ['{', '{']

/-- The two braces that close a tag. -/
def closing : List Char := ['}', '}']

/-- A tag with the given content. -/
def tagText (content : String) : String :=
  String.ofList opening ++ content ++ String.ofList closing

/-- How a message names a token. -/
def Token.describe : Token → String
  | .text _ => "text"
  | .choice _ => tagText "#if"
  | .branch _ => tagText "#elif"
  | .otherwise => tagText "#else"
  | .endChoice => tagText "/if"
  | .each _ => tagText "#each"
  | .endEach => tagText "/each"
  | .block name => tagText ("block \"" ++ name ++ "\"")
  | .endBlock => tagText "/block"
  | .parent name => tagText ("extends \"" ++ name ++ "\"")
  | .inclusion name => tagText ("include \"" ++ name ++ "\"")
  | .call name _ => tagText (name ++ "(...)")
  | .variable path => tagText path
  | .unknown tag => tagText tag

/-- A stretch of literal text, or the content of a tag. -/
inductive Piece where
  /-- Literal text. -/
  | literal (text : List Char)
  /-- What stands between the braces of a tag. -/
  | tag (content : List Char)
deriving Repr, DecidableEq

/-- The text that a piece was cut from. -/
def Piece.source : Piece → List Char
  | .literal text => text
  | .tag content => opening ++ content ++ closing

/-- Cuts a text at the last place where two opening braces stand: before them and
behind them. -/
def cutLastOpening? : List Char → Option (List Char × List Char)
  | [] => none
  | c :: rest =>
    match cutLastOpening? rest with
    | some (before, behind) => some (c :: before, behind)
    | none => if opening.isPrefixOf (c :: rest) then some ([], rest.drop 1) else none

/-- The first tag of a text: the literal text before it, its content, and the text
behind it. The closing braces are the first that follow any opening braces, and
the opening braces are the last that stand before those. -/
def firstTag? (text : List Char) : Option (List Char × List Char × List Char) :=
  match cutBefore? opening text with
  | none => none
  | some (before, found) =>
    match cutBefore? closing (found.drop 2) with
    | none => none
    | some (content, behind) =>
      match cutLastOpening? content with
      | none => some (before, content, behind.drop 2)
      | some (more, inner) => some (before ++ opening ++ more, inner, behind.drop 2)

/-- A cut that starts behind some text loses nothing of either. -/
theorem cutBeforeFrom?_append {pattern reversed text before found : List Char}
    (h : Text.cutBeforeFrom? pattern reversed text = some (before, found)) :
    before ++ found = reversed.reverse ++ text := by
  induction text generalizing reversed with
  | nil =>
    unfold Text.cutBeforeFrom? at h
    split at h <;> simp at h
    obtain ⟨rfl, rfl⟩ := h
    rfl
  | cons c rest ih =>
    unfold Text.cutBeforeFrom? at h
    split at h
    · simp at h
      obtain ⟨rfl, rfl⟩ := h
      rfl
    · simpa using ih h

/-- A cut before a pattern loses nothing. -/
theorem cutBefore?_append {pattern text before found : List Char}
    (h : cutBefore? pattern text = some (before, found)) : before ++ found = text := by
  simpa using cutBeforeFrom?_append h

/-- What follows a cut starts with the pattern. -/
theorem cutBeforeFrom?_found {pattern reversed text before found : List Char}
    (h : Text.cutBeforeFrom? pattern reversed text = some (before, found)) : pattern <+: found := by
  induction text generalizing reversed with
  | nil =>
    unfold Text.cutBeforeFrom? at h
    split at h
    · rename_i empty
      simp at h empty
      simp [h.2, empty]
    · simp at h
  | cons c rest ih =>
    unfold Text.cutBeforeFrom? at h
    split at h
    · rename_i starts
      simp at h
      obtain ⟨_, rfl⟩ := h
      exact List.isPrefixOf_iff_prefix.1 starts
    · exact ih h

/-- What follows a cut starts with the pattern. -/
theorem cutBefore?_found {pattern text before found : List Char}
    (h : cutBefore? pattern text = some (before, found)) : pattern <+: found :=
  cutBeforeFrom?_found h

/-- A cut at the last opening loses nothing. -/
theorem cutLastOpening?_append {text before behind : List Char}
    (h : cutLastOpening? text = some (before, behind)) : before ++ opening ++ behind = text := by
  induction text generalizing before behind with
  | nil => simp [cutLastOpening?] at h
  | cons c rest ih =>
    unfold cutLastOpening? at h
    split at h
    · rename_i found
      simp at h
      obtain ⟨rfl, rfl⟩ := h
      simpa using ih found
    · split at h
      · rename_i starts
        simp at h
        obtain ⟨rfl, rfl⟩ := h
        obtain ⟨tail, same⟩ := List.isPrefixOf_iff_prefix.1 starts
        rw [← same]
        cases rest with
        | nil => simp [opening] at same
        | cons d more =>
          simp [opening] at same
          simp [opening, same]
      · simp at h

/-- The first tag with what stands before it and behind it is the whole text. -/
theorem firstTag?_append {text before content behind : List Char}
    (h : firstTag? text = some (before, content, behind)) :
    before ++ (Piece.tag content).source ++ behind = text := by
  unfold firstTag? at h
  split at h
  · simp at h
  · rename_i early found cutOpen
    split at h
    · simp at h
    · rename_i inner rest cutClose
      obtain ⟨tail, openStart⟩ := cutBefore?_found cutOpen
      obtain ⟨last, closeStart⟩ := cutBefore?_found cutClose
      have outer := cutBefore?_append cutOpen
      have within := cutBefore?_append cutClose
      subst openStart
      subst closeStart
      simp [opening] at within
      split at h
      · simp at h
        obtain ⟨rfl, rfl, rfl⟩ := h
        simp [Piece.source, ← outer, ← within, closing]
      · rename_i cutLast
        have nested := cutLastOpening?_append cutLast
        simp at h
        obtain ⟨rfl, rfl, rfl⟩ := h
        subst nested
        simp [Piece.source, ← outer, ← within, closing]

/-- What stands behind the first tag is shorter than the text. -/
theorem firstTag?_length {text before content behind : List Char}
    (h : firstTag? text = some (before, content, behind)) : behind.length < text.length := by
  have whole := congrArg List.length (firstTag?_append h)
  simp [Piece.source, opening, closing] at whole
  omega

/-- A literal piece, unless it is empty. -/
def literalPiece (text : List Char) : List Piece :=
  if text.isEmpty then [] else [.literal text]

/-- The pieces of a text in order. -/
def pieces (text : List Char) : List Piece :=
  match _found : firstTag? text with
  | none => literalPiece text
  | some (before, content, behind) => literalPiece before ++ .tag content :: pieces behind
termination_by text.length
decreasing_by exact firstTag?_length ‹_›

/-- The name between two equal quotes that make up a whole text. The name is not
empty and does not contain the quote. -/
def quotedName? (text : List Char) : Option String :=
  match trim text with
  | [] => none
  | quote :: rest =>
    if quote = '"' ∨ quote = '\'' then
      match rest.getLast? with
      | some last =>
        let name := rest.dropLast
        if last = quote ∧ name ≠ [] ∧ quote ∉ name then some (String.ofList name) else none
      | none => none
    else none

/-- A function name, the arguments between the parenthesis that follows it and the
one that ends the text, with white space allowed before the first. -/
def call? (text : List Char) : Option (String × String) :=
  match text with
  | [] => none
  | c :: rest =>
    if isNameStart c then
      let name := c :: rest.takeWhile isWordCharacter
      match (rest.dropWhile isWordCharacter).dropWhile isBlank with
      | '(' :: inside =>
        if inside.getLast? = some ')' then
          some (String.ofList name, String.ofList (trim inside.dropLast))
        else none
      | _ => none
    else none

/-- A segment of a path after the first one. -/
def isSegment (segment : List Char) : Bool := !segment.isEmpty && segment.all isWordCharacter

/-- A path: a name that may start with an at sign, and any number of segments. -/
def isPath (text : List Char) : Bool :=
  match Text.splitOn '.' text with
  | [] => false
  | first :: segments =>
    let name := match first with
      | '@' :: name => name
      | name => name
    (match name with
      | c :: rest => isNameStart c && rest.all isWordCharacter
      | [] => false) && segments.all isSegment

/-- The keyword of a tag and the text behind it. -/
def keyword (text : List Char) : List Char × List Char := splitWord (trim text)

/-- The meaning of a tag that starts with a number sign. -/
def Token.ofOpening (content afterSign : List Char) : Token :=
  let (word, argument) := keyword afterSign
  if word = "if".toList then .choice (String.ofList argument)
  else if word = "elif".toList then .branch (String.ofList argument)
  else if word = "else".toList ∧ argument = [] then .otherwise
  else if word = "each".toList then .each (String.ofList argument)
  else .unknown (String.ofList content)

/-- The meaning of a tag that starts with a slash. -/
def Token.ofClosing (content afterSlash : List Char) : Token :=
  let word := trim afterSlash
  if word = "if".toList then .endChoice
  else if word = "each".toList then .endEach
  else if word = "block".toList then .endBlock
  else .unknown (String.ofList content)

/-- The meaning of a keyword that is followed by a quoted name. -/
def Token.ofNamed? (content : List Char) : Option Token :=
  let (word, argument) := keyword content
  if word = "block".toList then (quotedName? argument).map .block
  else if word = "extends".toList then (quotedName? argument).map .parent
  else if word = "include".toList then (quotedName? argument).map .inclusion
  else none

/-- The meaning of a tag without a sign at its front. -/
def Token.ofPlain (content : List Char) : Token :=
  if content = "else".toList then .otherwise
  else
    match ofNamed? content with
    | some token => token
    | none =>
      match call? content with
      | some (name, arguments) => .call name arguments
      | none =>
        if isPath content then .variable (String.ofList content)
        else .unknown (String.ofList content)

/-- The meaning of the content of a tag. -/
def Token.ofTag (raw : List Char) : Token :=
  let content := trim raw
  match content with
  | '#' :: rest => ofOpening content rest
  | '/' :: rest => ofClosing content rest
  | _ => ofPlain content

/-- The meaning of a piece. -/
def Piece.token : Piece → Token
  | .literal text => .text (String.ofList text)
  | .tag content => Token.ofTag content

/-- A token with the line that it starts on, counted from one. -/
structure Placed where
  /-- The token. -/
  token : Token
  /-- The line. -/
  line : Nat
deriving Repr, DecidableEq

/-- How many lines a text ends. -/
def lineFeeds (text : List Char) : Nat := text.count '\n'

/-- Numbers the pieces that start on a line and the ones that follow. -/
def placeFrom (line : Nat) : List Piece → List Placed
  | [] => []
  | piece :: rest => ⟨piece.token, line⟩ :: placeFrom (line + lineFeeds piece.source) rest

/-- The tokens of a template in order. -/
def tokens (text : String) : List Placed := placeFrom 1 (pieces text.toList)

/-- The three kinds of groups. -/
inductive Group where
  /-- A choice between branches. -/
  | choice
  /-- An iteration. -/
  | each
  /-- A named block. -/
  | block
deriving Repr, DecidableEq

/-- How a message names a kind of group. -/
def Group.label : Group → String
  | .choice => tagText "#if"
  | .each => tagText "#each"
  | .block => tagText "block"

/-- The kind of group that a token opens. -/
def Token.opens? : Token → Option Group
  | .choice _ => some .choice
  | .each _ => some .each
  | .block _ => some .block
  | _ => none

/-- The kind of group that a token closes. -/
def Token.closes? : Token → Option Group
  | .endChoice => some .choice
  | .endEach => some .each
  | .endBlock => some .block
  | _ => none

/-- How many tokens open and how many close a kind of group. -/
def groupCounts (group : Group) (tokens : List Placed) : Nat × Nat :=
  (tokens.countP (·.token.opens? = some group), tokens.countP (·.token.closes? = some group))

/-- The kinds of groups that are not closed as often as they are opened, with the
two counts. -/
def unbalanced (text : String) : List (Group × Nat × Nat) :=
  let tokens := tokens text
  [Group.choice, .each, .block].filterMap fun group =>
    let (opened, closed) := groupCounts group tokens
    if opened = closed then none else some (group, opened, closed)

end NoteTemplate.Template
