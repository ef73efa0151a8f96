import NoteTemplate.Template.Inheritance

/-!
# How the tags of inheritance are spelled

The readers of the tags that open and close a block, or name a parent, succeed exactly on
the texts that start with a tag of a certain spelling. A spelling has no braces besides those
at its ends, so a text reads alike whatever follows it, if that starts with a tag of its own.
-/

namespace NoteTemplate.Template

open Text (IsGap IsTrimmed dropFront?_eq_some_iff dropWhile_isBlank exists_gap isBlank)

/-- One quotation mark of either kind. -/
def IsQuote (c : Char) : Prop := c = '"' ∨ c = '\''

/-- A character that is not one of the braces. -/
def IsBraceless (c : Char) : Prop := c ≠ '{' ∧ c ≠ '}'

/-- A keyword of a tag: it is not empty and holds neither white space nor braces. -/
def IsKeyword (keyword : List Char) : Prop :=
  keyword ≠ [] ∧ ∀ c ∈ keyword, isBlank c = false ∧ IsBraceless c

/-- A keyword can be told by looking at its characters. -/
theorem isKeyword_of_all {keyword : List Char} (filled : keyword ≠ [])
    (sharp : keyword.all (fun c => !isBlank c && c != '{' && c != '}') = true) :
    IsKeyword keyword := by
  refine ⟨filled, fun c member => ?_⟩
  have each := List.all_eq_true.1 sharp c member
  simp only [Bool.and_eq_true, Bool.not_eq_true', bne_iff_ne] at each
  exact ⟨each.1.1, each.1.2, each.2⟩

/-- A name in quotes, as the readers of these tags take it. -/
def IsQuotable (name : List Char) : Prop := name ≠ [] ∧ ∀ c ∈ name, isNameCharacter c = true

/-- The contents of a tag with a keyword and a name. -/
inductive NamedContent (keyword name : List Char) : List Char → Prop where
  /-- A keyword and a quoted name, with white space between them. -/
  | intro {before between behind : List Char} {quote unquote : Char} (front : IsGap before)
      (gap : IsGap between) (apart : between ≠ []) (opens : IsQuote quote)
      (quotable : IsQuotable name) (closes : IsQuote unquote) (back : IsGap behind) :
      NamedContent keyword name
        (before ++ (keyword ++ (between ++ quote :: (name ++ unquote :: behind))))

/-- The contents of a tag that closes a block. -/
inductive EndContent : List Char → Prop where
  /-- The closing word with white space around it. -/
  | intro {before behind : List Char} (front : IsGap before) (back : IsGap behind) :
      EndContent (before ++ ("/block".toList ++ behind))

/-- The word of a block is a keyword. -/
theorem isKeyword_block : IsKeyword "block".toList :=
  isKeyword_of_all (by decide) (by decide)

/-- The word of a parent is a keyword. -/
theorem isKeyword_extends : IsKeyword "extends".toList :=
  isKeyword_of_all (by decide) (by decide)

/-- The word that closes a block is a keyword. -/
theorem isKeyword_blockEnd : IsKeyword "/block".toList :=
  isKeyword_of_all (by decide) (by decide)

/-- White space is no brace. -/
theorem isBraceless_of_isBlank {c : Char} (blank : isBlank c = true) : IsBraceless c := by
  constructor
  · rintro rfl
    exact absurd blank (by decide)
  · rintro rfl
    exact absurd blank (by decide)

/-- A quotation mark is no brace. -/
theorem IsQuote.isBraceless {c : Char} (quote : IsQuote c) : IsBraceless c := by
  rcases quote with rfl | rfl
  · exact ⟨by decide, by decide⟩
  · exact ⟨by decide, by decide⟩

/-- A quotation mark is no white space. -/
theorem IsQuote.not_blank {c : Char} (quote : IsQuote c) : isBlank c = false := by
  rcases quote with rfl | rfl
  · decide
  · decide

/-- A text in quotation marks is trimmed. -/
theorem IsQuote.isTrimmed {quote unquote : Char} (opens : IsQuote quote) (closes : IsQuote unquote)
    (name : List Char) : IsTrimmed (quote :: (name ++ [unquote])) := by
  constructor
  · rintro c ⟨⟩
    exact opens.not_blank
  · intro c member
    rw [← List.cons_append, List.getLast?_concat] at member
    cases member
    exact closes.not_blank

/-- A quotation mark ends a name. -/
theorem IsQuote.not_name {c : Char} (quote : IsQuote c) : isNameCharacter c = false := by
  rcases quote with rfl | rfl
  · decide
  · decide

/-- A character of a name is no brace. -/
theorem isBraceless_of_isNameCharacter {c : Char} (named : isNameCharacter c = true) :
    IsBraceless c := by
  simp only [isNameCharacter, Bool.and_eq_true, bne_iff_ne] at named
  exact ⟨named.1.2, named.2⟩

/-- The contents of a tag with a name hold no braces. -/
theorem NamedContent.isBraceless {keyword name content : List Char}
    (spelled : NamedContent keyword name content) (word : IsKeyword keyword) :
    ∀ c ∈ content, IsBraceless c := by
  obtain ⟨front, gap, _, opens, quotable, closes, back⟩ := spelled
  intro c member
  simp only [List.mem_append, List.mem_cons] at member
  rcases member with here | here | here | rfl | here | rfl | here
  · exact isBraceless_of_isBlank (front c here)
  · exact (word.2 c here).2
  · exact isBraceless_of_isBlank (gap c here)
  · exact opens.isBraceless
  · exact isBraceless_of_isNameCharacter (quotable.2 c here)
  · exact closes.isBraceless
  · exact isBraceless_of_isBlank (back c here)

/-- The contents of a tag that closes a block hold no braces. -/
theorem EndContent.isBraceless {content : List Char} (spelled : EndContent content) :
    ∀ c ∈ content, IsBraceless c := by
  obtain ⟨front, back⟩ := spelled
  intro c member
  simp only [List.mem_append] at member
  rcases member with here | here | here
  · exact isBraceless_of_isBlank (front c here)
  · exact (isKeyword_blockEnd.2 c here).2
  · exact isBraceless_of_isBlank (back c here)

/-- A tag starts with its braces and white space. -/
theorem takeOpening?_eq_some {text rest : List Char} (taken : takeOpening? text = some rest) :
    ∃ before, IsGap before ∧ text = opening ++ (before ++ rest) := by
  obtain ⟨inner, found, rfl⟩ := Option.map_eq_some_iff.1 taken
  obtain ⟨before, front, same⟩ := exists_gap inner
  exact ⟨before, front, by rw [dropFront?_eq_some_iff.1 found, ← same]⟩

/-- The start of a tag is read up to what is no white space. -/
theorem takeOpening?_append {before text : List Char} (front : IsGap before)
    (start : ∀ c ∈ text.head?, isBlank c = false) :
    takeOpening? (opening ++ (before ++ text)) = some text := by
  rw [takeOpening?, dropFront?_eq_some_iff.2 rfl, Option.map_some, dropWhile_isBlank front start]

/-- A tag ends with white space and its braces. -/
theorem takeClosing?_eq_some_iff {text rest : List Char} :
    takeClosing? text = some rest ↔
      ∃ behind, IsGap behind ∧ text = behind ++ (closing ++ rest) := by
  rw [takeClosing?, dropFront?_eq_some_iff]
  constructor
  · intro ends
    obtain ⟨behind, back, same⟩ := exists_gap text
    exact ⟨behind, back, by rw [← ends, ← same]⟩
  · rintro ⟨behind, back, rfl⟩
    refine dropWhile_isBlank back ?_
    rintro c ⟨⟩
    decide

/-- White space that has to be there is read. -/
theorem takeBlank?_eq_some {text rest : List Char} (taken : takeBlank? text = some rest) :
    ∃ between, IsGap between ∧ between ≠ [] ∧ text = between ++ rest := by
  cases text with
  | nil => cases taken
  | cons c tail =>
    simp only [takeBlank?] at taken
    split at taken
    · rename_i blank
      obtain rfl := Option.some.inj taken
      obtain ⟨gap, more, same⟩ := exists_gap tail
      refine ⟨c :: gap, ?_, List.cons_ne_nil _ _, by rw [List.cons_append, ← same]⟩
      intro d member
      rcases List.mem_cons.1 member with rfl | later
      · exact blank
      · exact more d later
    · cases taken

/-- White space is read up to anything else. -/
theorem takeBlank?_append {between text : List Char} (gap : IsGap between) (apart : between ≠ [])
    (start : ∀ c ∈ text.head?, isBlank c = false) :
    takeBlank? (between ++ text) = some text := by
  cases between with
  | nil => exact absurd rfl apart
  | cons c rest =>
    have more : IsGap rest := fun d member => gap d (List.mem_cons_of_mem _ member)
    simp only [List.cons_append, takeBlank?, gap c List.mem_cons_self, if_true,
      dropWhile_isBlank more start]

/-- A quotation mark is read where one stands. -/
theorem takeQuote?_eq_some_iff {text rest : List Char} :
    takeQuote? text = some rest ↔ ∃ quote, IsQuote quote ∧ text = quote :: rest := by
  cases text with
  | nil => simp [takeQuote?]
  | cons c tail =>
    by_cases quote : c = '"' ∨ c = '\''
    · simp only [takeQuote?, if_pos quote, Option.some.injEq, List.cons.injEq]
      constructor
      · exact fun same => ⟨c, quote, rfl, same⟩
      · exact fun ⟨_, _, _, same⟩ => same
    · simp only [takeQuote?, if_neg quote, List.cons.injEq]
      constructor
      · exact fun absent => nomatch absent
      · rintro ⟨_, other, rfl, _⟩
        exact absurd other quote

/-- A name is read where one stands. -/
theorem takeName?_eq_some {text name rest : List Char}
    (taken : takeName? text = some (name, rest)) : IsQuotable name ∧ text = name ++ rest := by
  simp only [takeName?] at taken
  split at taken
  · cases taken
  · rename_i filled
    cases taken
    refine ⟨⟨filled, ?_⟩, List.takeWhile_append_dropWhile.symm⟩
    exact List.all_eq_true.1 List.all_takeWhile

/-- A name is read up to a character that ends it. -/
theorem takeName?_append {name rest : List Char} {c : Char} (quotable : IsQuotable name)
    (ends : isNameCharacter c = false) :
    takeName? (name ++ c :: rest) = some (name, c :: rest) := by
  have taken : (name ++ c :: rest).takeWhile isNameCharacter = name := by
    rw [List.takeWhile_append_of_pos quotable.2]
    simp [ends]
  have dropped : (name ++ c :: rest).dropWhile isNameCharacter = c :: rest := by
    rw [List.dropWhile_append_of_pos quotable.2]
    simp [ends]
  simp only [takeName?, taken, dropped, quotable.1, if_false]

/-- A keyword does not start with white space. -/
theorem IsKeyword.head_not_blank {keyword : List Char} (word : IsKeyword keyword)
    (rest : List Char) :
    ∀ c ∈ (keyword ++ rest).head?, isBlank c = false := by
  obtain ⟨filled, sharp⟩ := word
  cases keyword with
  | nil => exact absurd rfl filled
  | cons d tail =>
    rintro c ⟨⟩
    exact (sharp d List.mem_cons_self).1

/-- A tag in front of a text is its content between braces. -/
theorem Piece.source_tag (content rest : List Char) :
    (Piece.tag content).source ++ rest = opening ++ (content ++ (closing ++ rest)) := by
  simp only [Piece.source, List.append_assoc]

/-- The start of a tag is read up to its first word. -/
theorem takeOpening?_tag {before word : List Char} (front : IsGap before) (sharp : IsKeyword word)
    (more rest : List Char) :
    takeOpening? ((Piece.tag (before ++ (word ++ more))).source ++ rest) =
      some (word ++ (more ++ (closing ++ rest))) := by
  have opened := takeOpening?_append front (sharp.head_not_blank (more ++ (closing ++ rest)))
  rw [Piece.source_tag]
  simpa only [List.append_assoc] using opened

/-- A tag with a keyword and a name is read exactly where one stands. -/
theorem takeNamedTag?_eq_some_iff {keyword text name rest : List Char} (word : IsKeyword keyword) :
    takeNamedTag? keyword text = some (name, rest) ↔
      ∃ content, NamedContent keyword name content ∧ text = (Piece.tag content).source ++ rest := by
  constructor
  · intro taken
    simp only [takeNamedTag?, bind, Option.bind_eq_some_iff, pure, Option.some.injEq,
      Prod.mk.injEq] at taken
    obtain ⟨first, opens, second, found, third, blank, fourth, quote, ⟨_, fifth⟩, named,
      sixth, unquote, seventh, closes, rfl, rfl⟩ := taken
    obtain ⟨before, front, rfl⟩ := takeOpening?_eq_some opens
    obtain rfl := dropFront?_eq_some_iff.1 found
    obtain ⟨between, gap, apart, rfl⟩ := takeBlank?_eq_some blank
    obtain ⟨mark, isQuote, rfl⟩ := takeQuote?_eq_some_iff.1 quote
    obtain ⟨quotable, rfl⟩ := takeName?_eq_some named
    obtain ⟨unmark, isUnquote, rfl⟩ := takeQuote?_eq_some_iff.1 unquote
    obtain ⟨behind, back, rfl⟩ := takeClosing?_eq_some_iff.1 closes
    refine ⟨_, .intro front gap apart isQuote quotable isUnquote back, ?_⟩
    simp only [Piece.source_tag, List.append_assoc, List.cons_append]
  · rintro ⟨_, ⟨front, gap, apart, isQuote, quotable, isUnquote, back⟩, rfl⟩
    rename_i before between behind quote unquote
    have opened := takeOpening?_tag front word
      (between ++ quote :: (name ++ unquote :: behind)) rest
    have mark : ∀ c ∈ (quote :: (name ++ unquote :: (behind ++ (closing ++ rest)))).head?,
        isBlank c = false := by
      rintro c ⟨⟩
      exact isQuote.not_blank
    simp only [List.append_assoc, List.cons_append] at opened
    simp only [takeNamedTag?, opened, dropFront?_eq_some_iff.2 rfl,
      takeBlank?_append gap apart mark, takeQuote?_eq_some_iff.2 ⟨quote, isQuote, rfl⟩,
      takeName?_append quotable isUnquote.not_name,
      takeQuote?_eq_some_iff.2 ⟨unquote, isUnquote, rfl⟩,
      takeClosing?_eq_some_iff.2 ⟨behind, back, rfl⟩, bind, Option.bind_some, pure]

/-- A tag that closes a block is read exactly where one stands. -/
theorem takeBlockEnd?_eq_some_iff {text rest : List Char} :
    takeBlockEnd? text = some rest ↔
      ∃ content, EndContent content ∧ text = (Piece.tag content).source ++ rest := by
  constructor
  · intro taken
    simp only [takeBlockEnd?, bind, Option.bind_eq_some_iff] at taken
    obtain ⟨first, opens, second, found, closes⟩ := taken
    obtain ⟨before, front, rfl⟩ := takeOpening?_eq_some opens
    obtain rfl := dropFront?_eq_some_iff.1 found
    obtain ⟨behind, back, rfl⟩ := takeClosing?_eq_some_iff.1 closes
    refine ⟨_, .intro front back, ?_⟩
    simp only [Piece.source_tag, List.append_assoc]
  · rintro ⟨_, ⟨front, back⟩, rfl⟩
    rename_i before behind
    simp only [takeBlockEnd?, takeOpening?_tag front isKeyword_blockEnd behind rest,
      dropFront?_eq_some_iff.2 rfl, takeClosing?_eq_some_iff.2 ⟨behind, back, rfl⟩, bind,
      Option.bind_some]

/-- A tag with a keyword and a name is read. -/
theorem NamedContent.takeNamedTag? {keyword name content : List Char}
    (spelled : NamedContent keyword name content) (word : IsKeyword keyword) (rest : List Char) :
    takeNamedTag? keyword ((Piece.tag content).source ++ rest) = some (name, rest) :=
  (takeNamedTag?_eq_some_iff word).2 ⟨content, spelled, rfl⟩

/-- The tags of blocks, with what is read from them. -/
inductive BlockTag : Mark → Prop where
  /-- A tag that opens a block. -/
  | opens {name content : List Char} (spelled : NamedContent "block".toList name content) :
      BlockTag (.opens (Piece.tag content).source (String.ofList name))
  /-- A tag that closes a block. -/
  | closes {content : List Char} (spelled : EndContent content) :
      BlockTag (.closes (Piece.tag content).source)

/-- The tag of a block has contents without braces. -/
theorem BlockTag.content {mark : Mark} (tag : BlockTag mark) :
    ∃ content, mark.source = (Piece.tag content).source ∧ ∀ c ∈ content, IsBraceless c := by
  cases tag with
  | opens spelled => exact ⟨_, rfl, spelled.isBraceless isKeyword_block⟩
  | closes spelled => exact ⟨_, rfl, spelled.isBraceless⟩

/-- A tag that closes a block opens none. -/
theorem EndContent.takeNamedTag? {content : List Char} (spelled : EndContent content)
    (rest : List Char) :
    takeNamedTag? "block".toList ((Piece.tag content).source ++ rest) = none := by
  obtain ⟨front, back⟩ := spelled
  rw [Template.takeNamedTag?, takeOpening?_tag front isKeyword_blockEnd]
  rfl

/-- The tag of a block is read exactly where one stands. -/
theorem blockTag?_eq_some_iff {text behind : List Char} {mark : Mark} :
    blockTag? text = some (mark, behind) ↔ BlockTag mark ∧ text = mark.source ++ behind := by
  have front : ∀ tag : List Char,
      (tag ++ behind).take ((tag ++ behind).length - behind.length) = tag := by
    intro tag
    rw [List.length_append, Nat.add_sub_cancel, List.take_left]
  constructor
  · intro found
    unfold blockTag? at found
    split at found
    · rename_i name rest taken
      obtain ⟨content, spelled, rfl⟩ := (takeNamedTag?_eq_some_iff isKeyword_block).1 taken
      cases found
      rw [front]
      exact ⟨.opens spelled, rfl⟩
    · obtain ⟨rest, taken, same⟩ := Option.map_eq_some_iff.1 found
      obtain ⟨content, spelled, rfl⟩ := takeBlockEnd?_eq_some_iff.1 taken
      cases same
      rw [front]
      exact ⟨.closes spelled, rfl⟩
  · rintro ⟨tag, rfl⟩
    cases tag with
    | opens spelled =>
      have taken := spelled.takeNamedTag? isKeyword_block behind
      simp only [blockTag?, Mark.source, taken, front]
    | closes spelled =>
      rename_i content
      have missed := spelled.takeNamedTag? behind
      have taken : takeBlockEnd? ((Piece.tag content).source ++ behind) = some behind :=
        takeBlockEnd?_eq_some_iff.2 ⟨_, spelled, rfl⟩
      simp only [blockTag?, Mark.source, missed, taken, Option.map_some, front]

/-- The tag of a block stays one when a text grows at its end. -/
theorem blockTag?_append {text behind : List Char} {mark : Mark} (rest : List Char)
    (found : blockTag? text = some (mark, behind)) :
    blockTag? (text ++ rest) = some (mark, behind ++ rest) := by
  obtain ⟨tag, rfl⟩ := blockTag?_eq_some_iff.1 found
  exact blockTag?_eq_some_iff.2 ⟨tag, List.append_assoc _ _ _⟩

/-- A place where a text can be cut without cutting a tag: its end, or where two opening
braces stand. -/
def IsSeam (text : List Char) : Prop := text = [] ∨ opening <+: text

/-- A tag is a seam. -/
theorem isSeam_tag (content rest : List Char) : IsSeam ((Piece.tag content).source ++ rest) :=
  .inr ⟨content ++ (closing ++ rest), (Piece.source_tag content rest).symm⟩

/-- No other opening brace stands in a tag without braces in its content. -/
theorem open_not_mem {content : List Char} (braceless : ∀ c ∈ content, IsBraceless c) :
    '{' ∉ content ++ closing := by
  intro member
  rcases List.mem_append.1 member with here | there
  · exact (braceless _ here).1 rfl
  · exact absurd there (by decide)

/-- A tag that starts before a seam ends before it. -/
theorem tag_before_seam {text rest content behind : List Char} (filled : text ≠ [])
    (seam : IsSeam rest) (braceless : ∀ c ∈ content, IsBraceless c)
    (same : text ++ rest = (Piece.tag content).source ++ behind) :
    ∃ more, text = (Piece.tag content).source ++ more ∧ behind = more ++ rest := by
  have inside := open_not_mem braceless
  rcases List.append_eq_append_iff.1 same with ⟨cut, spans, cut_eq⟩ | ⟨more, here, there⟩
  · cases cut with
    | nil => exact ⟨[], by simpa using spans.symm, by simpa using cut_eq.symm⟩
    | cons c tail =>
      exfalso
      rcases seam with rfl | ⟨later, starts⟩
      · cases cut_eq
      · have double : '{' :: '{' :: later = c :: (tail ++ behind) := starts.trans cut_eq
        obtain ⟨rfl, second⟩ := List.cons.inj double
        have spread : '{' :: '{' :: (content ++ closing) = text ++ '{' :: tail := spans
        match text, filled, spread with
        | [_], _, spread =>
          obtain rfl : content ++ closing = tail := (List.cons.inj (List.cons.inj spread).2).2
          have head : '{' ∈ (content ++ closing).head? := by
            cases content with
            | nil => exact absurd (List.cons.inj second).1 (by decide)
            | cons d more => exact congrArg some (List.cons.inj second).1.symm
          exact inside (List.mem_of_mem_head? head)
        | _ :: _ :: text, _, spread =>
          have longer : content ++ closing = text ++ '{' :: tail :=
            (List.cons.inj (List.cons.inj spread).2).2
          rw [longer] at inside
          exact inside (List.mem_append_right _ List.mem_cons_self)
  · exact ⟨more, here, there⟩

/-- In front of a seam, the tags of blocks do not depend on what follows. -/
theorem blockTag?_append_seam {text rest : List Char} (filled : text ≠ []) (seam : IsSeam rest) :
    blockTag? (text ++ rest) =
      (blockTag? text).map fun (mark, behind) => (mark, behind ++ rest) := by
  cases found : blockTag? text with
  | some tag => exact blockTag?_append rest found
  | none =>
    cases longer : blockTag? (text ++ rest) with
    | none => rfl
    | some tag =>
      obtain ⟨mark, behind⟩ := tag
      obtain ⟨tag, same⟩ := blockTag?_eq_some_iff.1 longer
      obtain ⟨content, spelled, braceless⟩ := tag.content
      rw [spelled] at same
      obtain ⟨more, rfl, _⟩ := tag_before_seam filled seam braceless same
      rw [← spelled, blockTag?_eq_some_iff.2 ⟨tag, rfl⟩] at found
      cases found

end NoteTemplate.Template
