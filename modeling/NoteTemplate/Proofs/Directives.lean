import NoteTemplate.Proofs.BlockOutline
import NoteTemplate.Proofs.LexedTags

/-!
# Two readings of inheritance

Filling in a parent reads the tags of inheritance off the text itself; the parser reads them
as tokens. `scanned` and `lexed` are the two sequences of directives that come of it, with
the names trimmed. Both are read off the contents of the same tags, one by one.
-/

namespace NoteTemplate.Template

open Text (trim trimmed)

/-- What a tag of inheritance directs. -/
inductive Directive where
  /-- A block starts. -/
  | opens (name : String)
  /-- A block ends. -/
  | closes
  /-- The parent has this name. -/
  | parent (name : String)
deriving Repr, DecidableEq

/-- The name of the parent that a directive gives. -/
def Directive.parent? : Directive → Option String
  | parent name => some name
  | _ => none

/-- The directive in a part of a text. -/
def Mark.directive? : Mark → Option Directive
  | literal _ => none
  | opens _ name => some (.opens (trimmed name))
  | closes _ => some .closes

/-- The directive whose tag stands at the front of a text. -/
def directiveAt? (text : List Char) : Option Directive :=
  match blockTag? text with
  | some (mark, _) => mark.directive?
  | none => (takeParentTag? text).map fun (name, _) => .parent (String.ofList (trim name))

/-- The directives whose tags stand in a text. -/
def scanned : List Char → List Directive
  | [] => []
  | c :: rest => (directiveAt? (c :: rest)).toList ++ scanned rest

/-- The directive that a token stands for. -/
def Token.directive? : Token → Option Directive
  | block name => some (.opens (trimmed name))
  | endBlock => some .closes
  | parent name => some (.parent (trimmed name))
  | _ => none

/-- The directives among the tokens of a text. -/
def lexed (text : String) : List Directive :=
  (tokens text).filterMap fun placed => placed.token.directive?

/-- The contents of tags that spell a directive. -/
inductive Spells : Directive → List Char → Prop where
  /-- A block starts. -/
  | opens {name content : List Char} (spelled : NamedContent "block".toList name content) :
      Spells (.opens (String.ofList (trim name))) content
  /-- A block ends. -/
  | closes {content : List Char} (spelled : EndContent content) : Spells .closes content
  /-- The parent is named. -/
  | parent {name content : List Char} (spelled : NamedContent "extends".toList name content) :
      Spells (.parent (String.ofList (trim name))) content

/-- The contents of a directive hold no braces. -/
theorem Spells.isBraceless {directive : Directive} {content : List Char}
    (spells : Spells directive content) : ∀ c ∈ content, IsBraceless c := by
  cases spells with
  | opens spelled => exact spelled.isBraceless isKeyword_block
  | closes spelled => exact spelled.isBraceless
  | parent spelled => exact spelled.isBraceless isKeyword_extends

/-- The tag of a parent is read exactly where one stands. -/
theorem takeParentTag?_eq_some {text name rest : List Char}
    (taken : takeParentTag? text = some (name, rest)) :
    ∃ content behind, NamedContent "extends".toList name content ∧
      text = (Piece.tag content).source ++ behind := by
  obtain ⟨⟨_, behind⟩, found, same⟩ := Option.map_eq_some_iff.1 taken
  cases same
  obtain ⟨content, spelled, whole⟩ := (takeNamedTag?_eq_some_iff isKeyword_extends).1 found
  exact ⟨content, behind, spelled, whole⟩

/-- The tag of a parent is none of a block. -/
theorem NamedContent.blockTag? {name content : List Char}
    (spelled : NamedContent "extends".toList name content) (rest : List Char) :
    blockTag? ((Piece.tag content).source ++ rest) = none := by
  obtain ⟨front, _, _, _, _, _, _⟩ := spelled
  rw [Template.blockTag?, Template.takeNamedTag?, takeBlockEnd?,
    takeOpening?_tag front isKeyword_extends]
  rfl

/-- A directive is read exactly where a tag stands that spells it. -/
theorem directiveAt?_eq_some_iff {text : List Char} {directive : Directive} :
    directiveAt? text = some directive ↔
      ∃ content rest, Spells directive content ∧ text = (Piece.tag content).source ++ rest := by
  constructor
  · intro read
    unfold directiveAt? at read
    split at read
    · rename_i mark behind found
      obtain ⟨tag, rfl⟩ := blockTag?_eq_some_iff.1 found
      cases tag with
      | opens spelled =>
        cases read
        refine ⟨_, behind, ?_, rfl⟩
        rw [trimmed, String.toList_ofList]
        exact .opens spelled
      | closes spelled =>
        cases read
        exact ⟨_, behind, .closes spelled, rfl⟩
    · obtain ⟨⟨name, rest⟩, taken, rfl⟩ := Option.map_eq_some_iff.1 read
      obtain ⟨content, behind, spelled, rfl⟩ := takeParentTag?_eq_some taken
      exact ⟨content, behind, .parent spelled, rfl⟩
  · rintro ⟨content, rest, spells, rfl⟩
    cases spells with
    | @opens name _ spelled =>
      have tag : Template.blockTag? ((Piece.tag content).source ++ rest) =
          some (.opens (Piece.tag content).source (String.ofList name), rest) :=
        blockTag?_eq_some_iff.2 ⟨.opens spelled, rfl⟩
      rw [directiveAt?, tag]
      simp only [Mark.directive?, trimmed, String.toList_ofList]
    | closes spelled =>
      have tag : Template.blockTag? ((Piece.tag content).source ++ rest) =
          some (.closes (Piece.tag content).source, rest) :=
        blockTag?_eq_some_iff.2 ⟨.closes spelled, rfl⟩
      rw [directiveAt?, tag]
      rfl
    | parent spelled =>
      have found := spelled.takeNamedTag? isKeyword_extends rest
      rw [directiveAt?, spelled.blockTag?, takeParentTag?, found]
      rfl

/-- A directive stands between braces. -/
theorem stretch_of_directiveAt? {text : List Char} {directive : Directive}
    (read : directiveAt? text = some directive) :
    ∃ content rest, Spells directive content ∧ (∀ c ∈ content, IsBraceless c) ∧
      text = opening ++ (content ++ (closing ++ rest)) := by
  obtain ⟨content, rest, spells, rfl⟩ := directiveAt?_eq_some_iff.1 read
  exact ⟨content, rest, spells, spells.isBraceless, Piece.source_tag _ _⟩

/-- Where no directive starts, none is scanned. -/
theorem scanned_silent {front : List Char} (behind : List Char)
    (silent : ∀ suffix, suffix ≠ [] → suffix <:+ front → directiveAt? (suffix ++ behind) = none) :
    scanned (front ++ behind) = scanned behind := by
  induction front with
  | nil => rfl
  | cons c front ih =>
    have here : directiveAt? (c :: (front ++ behind)) = none :=
      silent (c :: front) (List.cons_ne_nil _ _) List.suffix_rfl
    have later := ih fun suffix filled ends =>
      silent suffix filled (ends.trans (List.suffix_cons c front))
    rw [List.cons_append, scanned, here, later]
    rfl

/-- No directive starts at anything but two opening braces. -/
theorem directiveAt?_of_ne {c : Char} (other : c ≠ '{') (rest : List Char) :
    directiveAt? (c :: rest) = none ∧ directiveAt? ('{' :: c :: rest) = none := by
  constructor
  · cases read : directiveAt? (c :: rest) with
    | none => rfl
    | some directive =>
      obtain ⟨content, rest, _, _, same⟩ := stretch_of_directiveAt? read
      exact absurd (List.cons.inj same).1 other
  · cases read : directiveAt? ('{' :: c :: rest) with
    | none => rfl
    | some directive =>
      obtain ⟨content, rest, _, _, same⟩ := stretch_of_directiveAt? read
      exact absurd (List.cons.inj (List.cons.inj same).2).1 other

/-- Where no brace stands, no directive is scanned. -/
theorem scanned_free {front : List Char} (behind : List Char) (free : '{' ∉ front) :
    scanned (front ++ behind) = scanned behind := by
  refine scanned_silent behind fun suffix filled ends => ?_
  cases suffix with
  | nil => exact absurd rfl filled
  | cons c suffix =>
    have other : c ≠ '{' := fun same => free (ends.subset (same ▸ List.mem_cons_self))
    exact (directiveAt?_of_ne other _).1

/-- Inside a tag that holds no other braces, no directive starts. -/
theorem scanned_tag {content : List Char} (braceless : ∀ c ∈ content, IsBraceless c)
    (rest : List Char) :
    scanned (opening ++ (content ++ (closing ++ rest))) =
      (directiveAt? (opening ++ (content ++ (closing ++ rest)))).toList ++ scanned rest := by
  have free := open_not_mem braceless
  obtain ⟨c, more, starts, other⟩ :
      ∃ c more, content ++ (closing ++ rest) = c :: more ∧ c ≠ '{' := by
    cases content with
    | nil => exact ⟨'}', _, rfl, by decide⟩
    | cons c more => exact ⟨c, _, rfl, (braceless c List.mem_cons_self).1⟩
  have inside : directiveAt? ('{' :: (content ++ (closing ++ rest))) = none := by
    rw [starts]
    exact (directiveAt?_of_ne other more).2
  have later : scanned (content ++ (closing ++ rest)) = scanned rest := by
    rw [← List.append_assoc]
    exact scanned_free rest free
  change _ ++ ((directiveAt? ('{' :: (content ++ (closing ++ rest)))).toList ++
    scanned (content ++ (closing ++ rest))) = _
  rw [inside, later]
  rfl

/-- The parts of a text hold the directives that are scanned in it, but for the parents. -/
theorem marks_directives (text : List Char) :
    (marks text).filterMap Mark.directive? =
      (scanned text).filter fun directive => directive.parent?.isNone := by
  fun_induction marks text with
  | case1 => rfl
  | case2 c tail mark behind found ih =>
    obtain ⟨tag, same⟩ := blockTag?_eq_some_iff.1 found
    obtain ⟨content, spelled, braceless⟩ := tag.content
    have here : directiveAt? (c :: tail) = mark.directive? := by
      rw [directiveAt?, found]
    have stretch : c :: tail = opening ++ (content ++ (closing ++ behind)) := by
      rw [same, spelled, Piece.source_tag]
    have read := scanned_tag braceless behind
    rw [← stretch, here] at read
    rw [read, List.filterMap_cons, List.filter_append, ← ih]
    cases tag with
    | opens => rfl
    | closes => rfl
  | case3 c tail missing ih =>
    have read := scanned_free (tail.dropWhile (· != '{')) (open_not_mem_takeWhile tail)
    rw [List.takeWhile_append_dropWhile] at read
    rw [scanned, read, List.filter_append, ← ih, directiveAt?, missing]
    cases takeParentTag? (c :: tail) with
    | none => rfl
    | some taken => rfl

/-- The parent of a text is the first that is scanned in it. -/
theorem parentName?_eq_scanned (text : List Char) :
    parentName? text = (scanned text).findSome? Directive.parent? := by
  induction text with
  | nil => rfl
  | cons c rest ih =>
    rw [parentName?, scanned, List.findSome?_append, directiveAt?]
    cases taken : takeParentTag? (c :: rest) with
    | some pair =>
      obtain ⟨name, after⟩ := pair
      obtain ⟨content, behind, spelled, same⟩ := takeParentTag?_eq_some taken
      rw [same, spelled.blockTag?]
      rfl
    | none =>
      cases found : blockTag? (c :: rest) with
      | none => exact ih
      | some pair =>
        obtain ⟨mark, behind⟩ := pair
        obtain ⟨tag, _⟩ := blockTag?_eq_some_iff.1 found
        cases tag with
        | opens => exact ih
        | closes => exact ih

/-- The content of a piece that is a tag. -/
def Piece.content? : Piece → Option (List Char)
  | literal _ => none
  | tag content => some content

/-- The contents of the tags of a text. -/
def tagContents (text : List Char) : List (List Char) := (pieces text).filterMap Piece.content?

/-- The directive that is scanned in the tag of a content behind another opening brace. -/
def innerReading : List Char → Option Directive
  | '{' :: inner => directiveAt? (Piece.tag inner).source
  | _ => none

/-- The directive that is scanned in the tag of a content. -/
def scanReading (content : List Char) : Option Directive :=
  (directiveAt? (Piece.tag content).source).or (innerReading content)

/-- The directive that the token of a content stands for. -/
def lexReading (content : List Char) : Option Directive := (Token.ofTag content).directive?

/-- A literal piece has no tags. -/
theorem literalPiece_contents (text : List Char) :
    (literalPiece text).filterMap Piece.content? = [] := by
  unfold literalPiece
  split
  · rfl
  · rfl

/-- The directives among the tokens of a text are read off the contents of its tags. -/
theorem lexed_eq (text : String) : lexed text = (tagContents text.toList).filterMap lexReading := by
  have placed : ∀ (pieces : List Piece) (line : Nat),
      (placeFrom line pieces).filterMap (fun placed => placed.token.directive?) =
        (pieces.filterMap Piece.content?).filterMap lexReading := by
    intro pieces
    induction pieces with
    | nil => exact fun _ => rfl
    | cons piece pieces ih =>
      intro line
      rw [placeFrom, List.filterMap_cons, ih]
      cases piece with
      | literal text => rfl
      | tag content => rfl
  exact placed _ _

/-- A content that ends first is spelled exactly by what is read in its tag. -/
theorem EndsFirst.directiveAt? {content : List Char} (first : EndsFirst content)
    (rest : List Char) {directive : Directive} :
    directiveAt? (opening ++ (content ++ (closing ++ rest))) = some directive ↔
      Spells directive content := by
  constructor
  · intro read
    obtain ⟨inner, behind, spells, braceless, same⟩ := stretch_of_directiveAt? read
    have free : '}' ∉ inner := fun member => (braceless _ member).2 rfl
    obtain ⟨rfl, _⟩ := first.unique free (List.append_cancel_left same)
    exact spells
  · intro spells
    exact directiveAt?_eq_some_iff.2 ⟨content, rest, spells, (Piece.source_tag _ _).symm⟩

/-- What is read in a tag does not depend on what follows it. -/
theorem EndsFirst.directiveAt?_source {content : List Char} (first : EndsFirst content)
    (rest : List Char) :
    Template.directiveAt? (opening ++ (content ++ (closing ++ rest))) =
      Template.directiveAt? (Piece.tag content).source := by
  have alone := Piece.source_tag content []
  rw [List.append_nil] at alone
  rw [alone]
  exact Option.ext fun directive => (first.directiveAt? rest).trans (first.directiveAt? []).symm

/-- At the second of the two opening braces of a tag, what is read is what stands behind
another opening brace. -/
theorem EndsFirst.innerReading {content : List Char} (first : EndsFirst content)
    (behind : List Char) :
    Template.directiveAt? ('{' :: (content ++ (closing ++ behind))) =
      Template.innerReading content := by
  unfold Template.innerReading
  split
  · exact (first.suffix (List.suffix_cons _ _)).directiveAt?_source behind
  · rename_i unbraced
    cases content with
    | nil =>
      have other : '}' ≠ '{' := by decide
      exact (directiveAt?_of_ne other ('}' :: behind)).2
    | cons c content =>
      have other : c ≠ '{' := fun same => unbraced content (same ▸ rfl)
      exact (directiveAt?_of_ne other _).2

/-- At the two opening braces of a tag, and at the second of them, the reading of its content
is scanned. -/
theorem EndsFirst.scanReading {content : List Char} (first : EndsFirst content)
    (behind : List Char) :
    (Template.directiveAt? (opening ++ (content ++ (closing ++ behind)))).toList ++
        (Template.directiveAt? ('{' :: (content ++ (closing ++ behind)))).toList =
      (Template.scanReading content).toList := by
  have here := first.directiveAt?_source behind
  rw [first.innerReading behind, Template.scanReading, here]
  cases read : Template.directiveAt? (Piece.tag content).source with
  | none => rfl
  | some directive =>
    have braceless := ((first.directiveAt? behind).1 (here.trans read)).isBraceless
    have inner : Template.innerReading content = none := by
      unfold Template.innerReading
      split
      · exact absurd rfl (braceless _ List.mem_cons_self).1
      · rfl
    rw [inner]
    rfl

/-- A directive that starts in front of what follows the first tag stands in that tag. -/
theorem directiveAt?_firstTag {text before content behind suffix : List Char}
    {directive : Directive} (found : firstTag? text = some (before, content, behind))
    (filled : suffix ≠ []) (ends : suffix ++ behind <:+ text)
    (read : directiveAt? (suffix ++ behind) = some directive) :
    suffix.length = content.length + 4 ∨ suffix.length = content.length + 3 := by
  obtain ⟨inner, rest, _, braceless, same⟩ := stretch_of_directiveAt? read
  have size := congrArg List.length same
  simp only [opening, closing, List.length_append, List.length_cons, List.length_nil] at size
  have filled := List.length_pos_iff.2 filled
  rw [same] at ends
  rcases firstTag?_covers found braceless ends with later | ⟨rfl, rfl | rfl⟩
  · have short := later.length_le
    simp only [opening, closing, List.length_append, List.length_cons, List.length_nil] at short
    omega
  · omega
  · rw [List.length_cons]
    omega

/-- Up to what follows the first tag, the reading of its content is scanned. -/
theorem scanned_firstTag {text before content behind : List Char}
    (found : firstTag? text = some (before, content, behind)) :
    scanned text = (scanReading content).toList ++ scanned behind := by
  have whole : before ++ (opening ++ (content ++ (closing ++ behind))) = text := by
    rw [← firstTag?_append found, List.append_assoc, Piece.source_tag]
  have silent : ∀ suffix, suffix ≠ [] → suffix ++ behind <:+ text →
      suffix.length ≠ content.length + 4 → suffix.length ≠ content.length + 3 →
      directiveAt? (suffix ++ behind) = none := by
    intro suffix filled ends outer inner
    cases read : directiveAt? (suffix ++ behind) with
    | none => rfl
    | some directive =>
      rcases directiveAt?_firstTag found filled ends read with same | same
      · exact absurd same outer
      · exact absurd same inner
  have front : scanned text = scanned (opening ++ (content ++ (closing ++ behind))) := by
    rw [← whole]
    refine scanned_silent _ fun suffix filled ends => ?_
    have size := List.length_pos_iff.2 filled
    have regroup : suffix ++ (opening ++ (content ++ (closing ++ behind))) =
        (suffix ++ opening ++ content ++ closing) ++ behind := by
      simp only [List.append_assoc]
    have inside : suffix ++ (opening ++ (content ++ (closing ++ behind))) <:+ text := by
      obtain ⟨more, rfl⟩ := ends
      exact ⟨more, by rw [← whole, List.append_assoc]⟩
    rw [regroup] at inside ⊢
    refine silent _ (by simp [opening]) inside ?_ ?_
    · simp only [opening, closing, List.length_append, List.length_cons, List.length_nil]
      omega
    · simp only [opening, closing, List.length_append, List.length_cons, List.length_nil]
      omega
  have back : scanned (content ++ (closing ++ behind)) = scanned behind := by
    rw [← List.append_assoc]
    refine scanned_silent _ fun suffix filled ends => ?_
    have size := ends.length_le
    have inside : suffix ++ behind <:+ text := by
      obtain ⟨more, same⟩ := ends
      refine ⟨before ++ opening ++ more, ?_⟩
      rw [← whole, ← List.append_assoc content, ← same]
      simp only [List.append_assoc]
    simp only [closing, List.length_append, List.length_cons, List.length_nil] at size
    exact silent suffix filled inside (by omega) (by omega)
  have reading := (firstTag?_endsFirst found).scanReading behind
  rw [front, ← reading, List.append_assoc, ← back]
  rfl

/-- The directives that are scanned in a text are read off the contents of its tags. -/
theorem scanned_eq (text : List Char) :
    scanned text = (tagContents text).filterMap scanReading := by
  unfold tagContents
  fun_induction pieces text with
  | case1 text missing =>
    have silent : scanned (text ++ []) = scanned [] := by
      refine scanned_silent [] fun suffix _ ends => ?_
      rw [List.append_nil]
      cases read : directiveAt? suffix with
      | none => rfl
      | some directive =>
        obtain ⟨inner, rest, _, _, rfl⟩ := stretch_of_directiveAt? read
        exact (firstTag?_none missing ends).elim
    rw [List.append_nil] at silent
    rw [silent, literalPiece_contents]
    rfl
  | case2 text before content behind found ih =>
    rw [scanned_firstTag found, ih, List.filterMap_append, literalPiece_contents]
    cases read : scanReading content with
    | none => simp [Piece.content?, read]
    | some directive => simp [Piece.content?, read]

/-- The contents of the tags of a text end first. -/
theorem endsFirst_of_mem (text : List Char) : ∀ content ∈ tagContents text, EndsFirst content := by
  unfold tagContents
  fun_induction pieces text with
  | case1 text missing =>
    rw [literalPiece_contents]
    exact fun _ member => absurd member List.not_mem_nil
  | case2 text before content behind found ih =>
    rw [List.filterMap_append, literalPiece_contents, List.nil_append,
      List.filterMap_cons_some (rfl : Piece.content? (.tag content) = some content)]
    intro other member
    rcases List.mem_cons.1 member with rfl | later
    · exact firstTag?_endsFirst found
    · exact ih other later

/-- What is scanned behind another opening brace is what is spelled there. -/
theorem innerReading_eq_some_iff {content : List Char} (first : EndsFirst content)
    {directive : Directive} :
    innerReading content = some directive ↔
      ∃ inner, content = '{' :: inner ∧ Spells directive inner := by
  unfold innerReading
  split
  · rename_i inner
    have inside := first.suffix (List.suffix_cons '{' inner)
    rw [← inside.directiveAt?_source [], inside.directiveAt? []]
    constructor
    · exact fun spells => ⟨inner, rfl, spells⟩
    · rintro ⟨other, same, spells⟩
      obtain rfl := (List.cons.inj same).2
      exact spells
  · rename_i unbraced
    constructor
    · exact fun absent => nomatch absent
    · rintro ⟨inner, same, _⟩
      exact absurd same (unbraced inner)

/-- What is scanned in a tag is what its content spells, or does behind another opening
brace. -/
theorem scanReading_eq_some_iff {content : List Char} (first : EndsFirst content)
    {directive : Directive} :
    scanReading content = some directive ↔
      Spells directive content ∨ ∃ inner, content = '{' :: inner ∧ Spells directive inner := by
  have here : ∀ other, directiveAt? (Piece.tag content).source = some other ↔
      Spells other content := by
    intro other
    rw [← first.directiveAt?_source []]
    exact first.directiveAt? []
  rw [scanReading, Option.or_eq_some_iff, here, innerReading_eq_some_iff first]
  constructor
  · rintro (spells | ⟨_, inner⟩)
    · exact .inl spells
    · exact .inr inner
  · rintro (spells | ⟨inner, rfl, spells⟩)
    · exact .inl spells
    · refine .inr ⟨?_, inner, rfl, spells⟩
      cases read : directiveAt? (Piece.tag ('{' :: inner)).source with
      | none => rfl
      | some other =>
        have braceless := ((here other).1 read).isBraceless
        exact absurd rfl (braceless _ List.mem_cons_self).1

end NoteTemplate.Template
