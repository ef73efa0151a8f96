import NoteTemplate.Proofs.BlockNesting
import NoteTemplate.Proofs.TagWords

/-!
# Where the two readings of inheritance agree

The scan of a text and the tokens read the same directive off a tag, unless the tag is one of
four kinds (`Misread`). A text without such tags has one sequence of directives, and its
blocks are balanced for filling in parents exactly if they are for the parser.
-/

namespace NoteTemplate.Template

open Text (IsGap isBlank trim)

/-- The readings of a tag differ, for one of four reasons. -/
inductive Misread (content : List Char) : Prop where
  /-- A third opening brace stands in front of a directive, which is scanned all the same. -/
  | extraBrace {inner : List Char} {directive : Directive} (same : content = '{' :: inner)
      (spells : Spells directive inner)
  /-- A name stands between unequal quotation marks, and is scanned all the same. -/
  | unevenQuotes {word : List Char} {make : String → Directive} (naming : Naming word make)
      {quote unquote : Char} {name : List Char} (opens : IsQuote quote) (closes : IsQuote unquote)
      (uneven : quote ≠ unquote) (quotable : IsQuotable name)
      (shape : keyword content = (word, quote :: (name ++ [unquote])))
  /-- A quoted name holds the other quotation mark or a brace, and only its token has it. -/
  | foreignName {word : List Char} {make : String → Directive} (naming : Naming word make)
      {quote : Char} {name : List Char} (opens : IsQuote quote) (inner : quote ∉ name)
      (foreign : ∃ c ∈ name, isNameCharacter c = false)
      (shape : keyword content = (word, quote :: (name ++ [quote])))
  /-- White space stands between the slash and the word of a block, and only the token closes
  the block. -/
  | splitSlash {gap : List Char} (blank : IsGap gap) (apart : gap ≠ [])
      (shape : trim content = '/' :: (gap ++ "block".toList))

/-- A name between unequal quotation marks has no token of its own. -/
theorem not_lexSpells_of_uneven {content word name : List Char} {make : String → Directive}
    {quote unquote : Char} {directive : Directive} (naming : Naming word make)
    (uneven : quote ≠ unquote) (shape : keyword content = (word, quote :: (name ++ [unquote]))) :
    ¬ LexSpells content directive := by
  intro spells
  cases spells with
  | named _ _ _ _ other =>
    obtain ⟨rfl, _, rfl⟩ := quoted_inj (Prod.ext_iff.1 (shape.symm.trans other)).2
    exact uneven rfl
  | closes slash _ => exact (naming.no_sign shape (congrArg List.head? slash)).2.1 rfl

/-- A quoted name with a character that ends names is not scanned. -/
theorem not_spells_of_foreign {content word name : List Char} {make : String → Directive}
    {quote c : Char} {directive : Directive} (naming : Naming word make) (member : c ∈ name)
    (foreign : isNameCharacter c = false)
    (shape : keyword content = (word, quote :: (name ++ [quote]))) :
    ¬ Spells directive content := by
  intro spells
  rcases spells.cases_keyword with ⟨_, _, _, _, _, _, _, _, quotable, other, _⟩ | ⟨slash, _⟩
  · obtain ⟨_, rfl, _⟩ := quoted_inj (Prod.ext_iff.1 (shape.symm.trans other)).2
    cases foreign.symm.trans (quotable.2 c member)
  · exact (naming.no_sign shape (congrArg List.head? slash)).2.1 rfl

/-- With white space between the slash and the word, the end of a block is not scanned. -/
theorem not_spells_of_split {content gap : List Char} {directive : Directive} (apart : gap ≠ [])
    (shape : trim content = '/' :: (gap ++ "block".toList)) : ¬ Spells directive content := by
  intro spells
  rcases spells.cases_keyword with ⟨_, _, _, _, _, naming, _, _, _, other, _⟩ | ⟨slash, _⟩
  · exact (naming.no_sign other (congrArg List.head? shape)).2.1 rfl
  · have sizes := congrArg List.length (shape.symm.trans slash)
    have filled := List.length_pos_iff.2 apart
    have five : "block".toList.length = 5 := by decide
    have six : "/block".toList.length = 6 := by decide
    rw [List.length_cons, List.length_append] at sizes
    omega

/-- The two readings of a misread content that ends first differ. -/
theorem Misread.readings_ne {content : List Char} (misread : Misread content)
    (first : EndsFirst content) : scanReading content ≠ lexReading content := by
  intro same
  cases misread with
  | @extraBrace inner directive brace spells =>
    have scans := (scanReading_eq_some_iff first).2 (.inr ⟨inner, brace, spells⟩)
    have lexes := lexReading_eq_some_iff.1 (same.symm.trans scans)
    rw [brace] at lexes
    exact not_lexSpells_brace lexes
  | unevenQuotes naming opens closes uneven quotable shape =>
    have spelled := (namedContent_iff naming.isKeyword).2 ⟨_, _, opens, closes, quotable, shape⟩
    have scans := (scanReading_eq_some_iff first).2 (.inl (naming.spells spelled))
    have lexes := lexReading_eq_some_iff.1 (same.symm.trans scans)
    exact not_lexSpells_of_uneven naming uneven shape lexes
  | foreignName naming opens inner foreign shape =>
    obtain ⟨c, member, foreign⟩ := foreign
    have lexes := lexReading_eq_some_iff.2
      (.named naming opens (List.ne_nil_of_mem member) inner shape)
    rcases (scanReading_eq_some_iff first).1 (same.trans lexes) with spells | ⟨inner, brace, _⟩
    · exact not_spells_of_foreign naming member foreign shape spells
    · rw [brace] at shape
      exact (naming.no_sign shape (head?_trim (by decide) inner)).2.2 rfl
  | splitSlash blank apart shape =>
    have word := isTrimmed_block.trim_behind (by decide) blank
    have lexes := lexReading_eq_some_iff.2 (.closes shape word)
    rcases (scanReading_eq_some_iff first).1 (same.trans lexes) with spells | ⟨inner, brace, _⟩
    · exact not_spells_of_split apart shape spells
    · rw [brace] at shape
      have head := head?_trim (show isBlank '{' = false by decide) inner
      rw [shape] at head
      cases head

/-- The two readings of any other content that ends first are one. -/
theorem readings_eq_of_not_misread {content : List Char} (read : ¬ Misread content)
    (first : EndsFirst content) : scanReading content = lexReading content := by
  refine Option.ext fun directive => ?_
  rw [scanReading_eq_some_iff first, lexReading_eq_some_iff]
  constructor
  · rintro (spells | ⟨inner, brace, spells⟩)
    · rcases spells.cases_keyword with
        ⟨word, make, quote, unquote, name, naming, opens, closes, quotable, shape, rfl⟩ |
          ⟨shape, rfl⟩
      · by_cases even : quote = unquote
        · subst even
          refine .named naming opens quotable.1 (fun member => ?_) shape
          cases opens.not_name.symm.trans (quotable.2 _ member)
        · exact absurd (.unevenQuotes naming opens closes even quotable shape) read
      · exact .closes shape isTrimmed_block.trim_eq
    · exact absurd (.extraBrace brace spells) read
  · intro spells
    cases spells with
    | @named word make naming quote name opens filled inner shape =>
      by_cases foreign : ∃ c ∈ name, isNameCharacter c = false
      · exact absurd (.foreignName naming opens inner foreign shape) read
      · have quotable : IsQuotable name := by
          refine ⟨filled, fun c member => ?_⟩
          cases named : isNameCharacter c with
          | true => rfl
          | false => exact absurd ⟨c, member, named⟩ foreign
        exact .inl (naming.spells ((namedContent_iff naming.isKeyword).2
          ⟨quote, quote, opens, opens, quotable, shape⟩))
    | closes shape word =>
      obtain ⟨gap, blank, closes⟩ := exists_of_closes shape word
      cases gap with
      | nil => exact .inl (.closes (endContent_iff.2 closes))
      | cons c gap => exact absurd (.splitSlash blank (List.cons_ne_nil _ _) closes) read

/-- The two readers of inheritance agree on every tag that is not misread, and on no other. The
directives that are scanned in a text, of which filling in takes the blocks and the first
parent, and those among its tokens are both read off its tags. In a text without misread tags
they are one sequence, and its blocks are balanced for filling in parents exactly if the parser
accepts their tags. -/
theorem readers_agree_unless_misread (text : String) :
    ((marks text.toList).filterMap Mark.directive? =
        (scanned text.toList).filter (fun directive => directive.parent?.isNone) ∧
      parentName? text.toList = (scanned text.toList).findSome? Directive.parent?) ∧
    (scanned text.toList = (tagContents text.toList).filterMap scanReading ∧
      lexed text = (tagContents text.toList).filterMap lexReading) ∧
    (∀ content ∈ tagContents text.toList,
      scanReading content = lexReading content ↔ ¬ Misread content) ∧
    ((∀ content ∈ tagContents text.toList, ¬ Misread content) →
      scanned text.toList = lexed text ∧
        isBalanced 0 (marks text.toList) = (parseFrom {} (blockTokens text)).isOk) := by
  refine ⟨⟨marks_directives _, parentName?_eq_scanned _⟩, ⟨scanned_eq _, lexed_eq text⟩, ?_, ?_⟩
  · intro content member
    have first := endsFirst_of_mem _ content member
    exact ⟨fun same misread => misread.readings_ne first same,
      fun read => readings_eq_of_not_misread read first⟩
  · intro read
    have same : scanned text.toList = lexed text := by
      have readings : (tagContents text.toList).map scanReading =
          (tagContents text.toList).map lexReading := by
        refine List.map_congr_left fun content member => ?_
        exact readings_eq_of_not_misread (read content member) (endsFirst_of_mem _ content member)
      have kept := congrArg (List.filterMap id) readings
      rw [List.filterMap_map, List.filterMap_map] at kept
      rw [scanned_eq, lexed_eq]
      exact kept
    refine ⟨same, ?_⟩
    rw [isBalanced_eq_isNested, same]
    exact (parseFrom_isOk (tokens text) {} (by simp)).symm

example : scanned (tagText "block 'x'" ++ tagText "/ block").toList = [.opens "x"] ∧
    lexed (tagText "block 'x'" ++ tagText "/ block") = [.opens "x", .closes] := by decide +kernel

/-- A text with a parent and a block, whose tags hold more white space than they need. -/
def spacedChild : String :=
  tagText "extends  'base' " ++ tagText " block\n\"x\"" ++ tagText " /block"

/-- The readers agree on the text with more white space, and its block is balanced for both. -/
theorem readers_agree_on_spacedChild :
    (∀ content ∈ tagContents spacedChild.toList, ¬ Misread content) ∧
    scanned spacedChild.toList = lexed spacedChild ∧
    isBalanced 0 (marks spacedChild.toList) = (parseFrom {} (blockTokens spacedChild)).isOk := by
  obtain ⟨_, _, exactly, agree⟩ := readers_agree_unless_misread spacedChild
  have same : ∀ content ∈ tagContents spacedChild.toList,
      scanReading content = lexReading content := by decide +kernel
  have read := fun content member => (exactly content member).1 (same content member)
  exact ⟨read, agree read⟩

end NoteTemplate.Template
