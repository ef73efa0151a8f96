import NoteTemplate.Proofs.Directives

/-!
# How tokens take the content of a tag apart

The content of a tag is trimmed and cut behind its first word. What a directive is spelled
with for the scan of a text is said in these terms, and so is what a token reads as one
(`lexReading_eq_some_iff`).
-/

namespace NoteTemplate.Template

open Text (IsGap IsTrimmed exists_trim isBlank not_of_head_dropWhile splitWord trim trimmed)

/-- Trimming keeps a first character that is no white space. -/
theorem head?_trim {c : Char} (sharp : isBlank c = false) (rest : List Char) :
    (trim (c :: rest)).head? = some c := by
  obtain ⟨before, behind, front, back, _, whole⟩ := exists_trim (c :: rest)
  have notBefore : before = [] := by
    cases before with
    | nil => rfl
    | cons d before =>
      obtain rfl := (List.cons.inj whole).1
      cases sharp.symm.trans (front c List.mem_cons_self)
  rw [notBefore, List.nil_append] at whole
  cases core : trim (c :: rest) with
  | nil =>
    rw [core, List.nil_append] at whole
    rw [← whole] at back
    cases sharp.symm.trans (back c List.mem_cons_self)
  | cons d core =>
    rw [core] at whole
    obtain rfl := (List.cons.inj whole).1
    rfl

/-- A text in quotation marks is taken apart in one way. -/
theorem quoted_inj {quote unquote other unother : Char} {name title : List Char}
    (same : quote :: (name ++ [unquote]) = other :: (title ++ [unother])) :
    quote = other ∧ name = title ∧ unquote = unother := by
  obtain ⟨rfl, rest⟩ := List.cons.inj same
  obtain ⟨rfl, last⟩ := List.append_inj' rest rfl
  exact ⟨rfl, rfl, (List.cons.inj last).1⟩

/-- The keyword of trimmed text is that of the text. -/
theorem keyword_trim (text : List Char) : keyword (trim text) = keyword text := by
  obtain ⟨_, _, _, _, sharp, _⟩ := exists_trim text
  rw [keyword, keyword, sharp.trim_eq]

/-- A word and an argument with white space between them are taken apart. -/
theorem keyword_eq {before word between argument behind : List Char} (front : IsGap before)
    (sharp : IsKeyword word) (gap : IsGap between) (apart : between ≠ [])
    (quoted : IsTrimmed argument) (filled : argument ≠ []) (back : IsGap behind) :
    keyword (before ++ (word ++ (between ++ (argument ++ behind)))) = (word, argument) := by
  have core : IsTrimmed (word ++ (between ++ argument)) := by
    refine ⟨sharp.head_not_blank _, fun c member => quoted.stop c ?_⟩
    rw [← List.append_assoc, List.getLast?_append] at member
    obtain ⟨last, ends⟩ := Option.isSome_iff_exists.1 (List.getLast?_isSome.2 filled)
    rwa [ends] at member ⊢
  have coreFilled : word ++ (between ++ argument) ≠ [] :=
    List.append_ne_nil_of_left_ne_nil sharp.1 _
  have regroup : before ++ (word ++ (between ++ (argument ++ behind))) =
      before ++ ((word ++ (between ++ argument)) ++ behind) := by
    simp only [List.append_assoc]
  have wordSharp : ∀ c ∈ word, (!isBlank c) = true := fun c member => by
    rw [(sharp.2 c member).1]
    rfl
  obtain ⟨b, rest, rfl⟩ := List.exists_cons_of_ne_nil apart
  have blank := gap b List.mem_cons_self
  have inner : trim (b :: rest ++ argument) = argument := quoted.trim_behind filled gap
  rw [regroup, keyword, core.trim coreFilled front back, splitWord,
    List.takeWhile_append_of_pos wordSharp, List.dropWhile_append_of_pos wordSharp]
  simp only [List.cons_append, List.takeWhile_cons, List.dropWhile_cons, blank, Bool.not_true,
    Bool.false_eq_true, if_false, List.append_nil]
  rw [← List.cons_append, inner]

/-- What is taken apart into a word and an argument has white space between them. -/
theorem exists_of_keyword {content word argument : List Char} {c : Char}
    (shape : keyword content = (word, argument)) (start : argument.head? = some c)
    (sharp : isBlank c = false) :
    ∃ before between behind, IsGap before ∧ IsGap between ∧ between ≠ [] ∧ IsGap behind ∧
      content = before ++ (word ++ (between ++ (argument ++ behind))) := by
  obtain ⟨before, behind, front, back, _, outer⟩ := exists_trim content
  simp only [keyword, splitWord, Prod.mk.injEq] at shape
  obtain ⟨taken, dropped⟩ := shape
  obtain ⟨between, after, gap, later, _, inner⟩ :=
    exists_trim ((trim content).dropWhile (!isBlank ·))
  rw [dropped] at inner
  have core : word ++ (between ++ (argument ++ after)) = trim content := by
    rw [← taken, ← inner, List.takeWhile_append_dropWhile]
  refine ⟨before, between, after ++ behind, front, gap, ?_, ?_, ?_⟩
  · rintro rfl
    have head : ((trim content).dropWhile (!isBlank ·)).head? = some c := by
      rw [inner, List.nil_append, List.head?_append, start]
      rfl
    have blank := not_of_head_dropWhile c head
    rw [sharp] at blank
    cases blank
  · intro d member
    rcases List.mem_append.1 member with here | there
    · exact later d here
    · exact back d there
  · rw [outer, ← core]
    simp only [List.append_assoc]

/-- The words that a name follows in a tag of inheritance, with what such a tag directs. -/
inductive Naming : List Char → (String → Directive) → Prop where
  /-- The word that starts a block. -/
  | block : Naming "block".toList .opens
  /-- The word that names the parent. -/
  | parent : Naming "extends".toList .parent

/-- These words are keywords. -/
theorem Naming.isKeyword {word : List Char} {make : String → Directive}
    (naming : Naming word make) :
    IsKeyword word := by
  cases naming with
  | block => exact isKeyword_block
  | parent => exact isKeyword_extends

/-- The contents of a tag with a keyword and a name, as the tokens take them apart. -/
theorem namedContent_iff {word name content : List Char} (sharp : IsKeyword word) :
    NamedContent word name content ↔ ∃ quote unquote, IsQuote quote ∧ IsQuote unquote ∧
      IsQuotable name ∧ keyword content = (word, quote :: (name ++ [unquote])) := by
  constructor
  · rintro ⟨front, gap, apart, opens, quotable, closes, back⟩
    rename_i before between behind quote unquote
    refine ⟨quote, unquote, opens, closes, quotable, ?_⟩
    have shape := keyword_eq front sharp gap apart (opens.isTrimmed closes name)
      (List.cons_ne_nil _ _) back
    simpa using shape
  · rintro ⟨quote, unquote, opens, closes, quotable, shape⟩
    obtain ⟨before, between, behind, front, gap, apart, back, rfl⟩ :=
      exists_of_keyword shape rfl opens.not_blank
    have spelled : NamedContent word name
        (before ++ (word ++ (between ++ quote :: (name ++ unquote :: behind)))) :=
      .intro front gap apart opens quotable closes back
    simpa using spelled

/-- The contents of a tag that closes a block are the closing word when they are trimmed. -/
theorem endContent_iff {content : List Char} :
    EndContent content ↔ trim content = "/block".toList := by
  have sharp : IsTrimmed "/block".toList := by
    constructor
    · rintro c ⟨⟩
      decide
    · rintro c ⟨⟩
      decide
  constructor
  · rintro ⟨front, back⟩
    exact sharp.trim (by decide) front back
  · intro trimmed
    obtain ⟨before, behind, front, back, _, whole⟩ := exists_trim content
    rw [whole, trimmed]
    exact .intro front back

/-- A naming word with a name spells what the word directs. -/
theorem Naming.spells {word name content : List Char} {make : String → Directive}
    (naming : Naming word make) (spelled : NamedContent word name content) :
    Spells (make (String.ofList (trim name))) content := by
  cases naming with
  | block => exact .opens spelled
  | parent => exact .parent spelled

/-- A directive is spelled by a naming word with a name or by the closing word. -/
theorem Spells.cases_keyword {directive : Directive} {content : List Char}
    (spells : Spells directive content) :
    (∃ word make quote unquote name, Naming word make ∧ IsQuote quote ∧ IsQuote unquote ∧
      IsQuotable name ∧ keyword content = (word, quote :: (name ++ [unquote])) ∧
      directive = make (String.ofList (trim name))) ∨
    trim content = "/block".toList ∧ directive = .closes := by
  cases spells with
  | opens spelled =>
    obtain ⟨quote, unquote, opens, closes, quotable, shape⟩ :=
      (namedContent_iff isKeyword_block).1 spelled
    exact .inl ⟨_, _, quote, unquote, _, .block, opens, closes, quotable, shape, rfl⟩
  | closes spelled => exact .inr ⟨endContent_iff.1 spelled, rfl⟩
  | parent spelled =>
    obtain ⟨quote, unquote, opens, closes, quotable, shape⟩ :=
      (namedContent_iff isKeyword_extends).1 spelled
    exact .inl ⟨_, _, quote, unquote, _, .parent, opens, closes, quotable, shape, rfl⟩

/-- A quoted name is what stands between two equal quotation marks, if it is not empty and
does not hold that mark. -/
theorem quotedName?_eq_some_iff {argument : List Char} (sharp : IsTrimmed argument)
    {found : String} :
    quotedName? argument = some found ↔ ∃ quote name, IsQuote quote ∧
      argument = quote :: (name ++ [quote]) ∧ name ≠ [] ∧ quote ∉ name ∧
      found = String.ofList name := by
  rw [quotedName?, sharp.trim_eq]
  constructor
  · intro read
    split at read
    · cases read
    · rename_i quote rest
      split at read
      · rename_i opens
        split at read
        · rename_i last ends
          obtain ⟨name, rfl⟩ := List.getLast?_eq_some_iff.1 ends
          simp only [List.dropLast_concat, Option.ite_none_right_eq_some, Option.some.injEq] at read
          obtain ⟨⟨rfl, filled, inner⟩, rfl⟩ := read
          exact ⟨last, name, opens, rfl, filled, inner, rfl⟩
        · cases read
      · cases read
  · rintro ⟨quote, name, opens, rfl, filled, inner, rfl⟩
    have mark : quote = '"' ∨ quote = '\'' := opens
    simp [mark, filled, inner]

/-- The contents of tags whose tokens stand for a directive. -/
inductive LexSpells (content : List Char) : Directive → Prop where
  /-- A word and a name between equal quotation marks. -/
  | named {word : List Char} {make : String → Directive} (naming : Naming word make) {quote : Char}
      {name : List Char} (opens : IsQuote quote) (filled : name ≠ []) (inner : quote ∉ name)
      (shape : keyword content = (word, quote :: (name ++ [quote]))) :
      LexSpells content (make (String.ofList (trim name)))
  /-- A slash and the word of a block. -/
  | closes {rest : List Char} (shape : trim content = '/' :: rest)
      (word : trim rest = "block".toList) : LexSpells content .closes

/-- The argument of a text is trimmed. -/
theorem isTrimmed_argument {content word argument : List Char}
    (shape : keyword content = (word, argument)) : IsTrimmed argument := by
  simp only [keyword, splitWord, Prod.mk.injEq] at shape
  obtain ⟨_, _, _, _, sharp, _⟩ := exists_trim ((trim content).dropWhile (!isBlank ·))
  rwa [shape.2] at sharp

/-- A tag without a sign stands for a directive only as a naming word with a quoted name. -/
theorem ofPlain_directive? {content : List Char} {directive : Directive}
    (read : (Token.ofPlain content).directive? = some directive) :
    ∃ word argument make found, Naming word make ∧ keyword content = (word, argument) ∧
      quotedName? argument = some found ∧ directive = make (trimmed found) := by
  unfold Token.ofPlain at read
  split at read
  · cases read
  · split at read
    · rename_i token named
      unfold Token.ofNamed? at named
      dsimp only at named
      split at named
      · rename_i word
        obtain ⟨found, quoted, rfl⟩ := Option.map_eq_some_iff.1 named
        exact ⟨_, _, _, found, .block, Prod.ext word rfl, quoted, (Option.some.inj read).symm⟩
      · split at named
        · rename_i word
          obtain ⟨found, quoted, rfl⟩ := Option.map_eq_some_iff.1 named
          exact ⟨_, _, _, found, .parent, Prod.ext word rfl, quoted, (Option.some.inj read).symm⟩
        · split at named
          · obtain ⟨found, quoted, rfl⟩ := Option.map_eq_some_iff.1 named
            cases read
          · cases named
    · split at read
      · cases read
      · split at read
        · cases read
        · cases read

/-- A tag of a naming word with a quoted name stands for its directive. -/
theorem ofPlain_of_naming {content word argument : List Char} {make : String → Directive}
    {found : String} (naming : Naming word make) (shape : keyword content = (word, argument))
    (quoted : quotedName? argument = some found) :
    (Token.ofPlain content).directive? = some (make (trimmed found)) := by
  have plain : content ≠ "else".toList := by
    rintro rfl
    have other : keyword "else".toList = ("else".toList, []) := by decide
    cases other.symm.trans shape
    cases quoted
  cases naming with
  | block =>
    have named : Token.ofNamed? content = some (.block found) := by
      simp [Token.ofNamed?, shape, quoted]
    rw [Token.ofPlain, if_neg plain, named]
    rfl
  | parent =>
    have named : Token.ofNamed? content = some (.parent found) := by
      simp [Token.ofNamed?, shape, quoted]
    rw [Token.ofPlain, if_neg plain, named]
    rfl

/-- Text that has a naming word starts with no sign. -/
theorem Naming.no_sign {content word argument : List Char} {make : String → Directive} {c : Char}
    (naming : Naming word make) (shape : keyword content = (word, argument))
    (head : (trim content).head? = some c) : c ≠ '#' ∧ c ≠ '/' ∧ c ≠ '{' := by
  simp only [keyword, splitWord, Prod.mk.injEq] at shape
  have whole : word ++ (trim content).dropWhile (!isBlank ·) = trim content := by
    rw [← shape.1, List.takeWhile_append_dropWhile]
  rw [← whole] at head
  cases naming with
  | block =>
    cases head
    decide
  | parent =>
    cases head
    decide

/-- A tag that starts with a number sign stands for no directive. -/
theorem ofOpening_directive? (content rest : List Char) :
    (Token.ofOpening content rest).directive? = none := by
  unfold Token.ofOpening
  dsimp only
  repeat' split
  all_goals rfl

/-- The token of a content stands for the directive that the content spells. -/
theorem lexReading_eq_some_iff {content : List Char} {directive : Directive} :
    lexReading content = some directive ↔ LexSpells content directive := by
  unfold lexReading Token.ofTag
  constructor
  · intro read
    dsimp only at read
    split at read
    · rw [ofOpening_directive?] at read
      cases read
    · rename_i rest shape
      unfold Token.ofClosing at read
      dsimp only at read
      split at read
      · cases read
      · split at read
        · cases read
        · split at read
          · rename_i word
            cases read
            exact .closes shape word
          · cases read
    · obtain ⟨word, argument, make, found, naming, shape, quoted, rfl⟩ := ofPlain_directive? read
      obtain ⟨quote, name, opens, rfl, filled, inner, rfl⟩ :=
        (quotedName?_eq_some_iff (isTrimmed_argument shape)).1 quoted
      rw [keyword_trim] at shape
      rw [trimmed, String.toList_ofList]
      exact .named naming opens filled inner shape
  · intro spells
    cases spells with
    | @named word make naming quote name opens filled inner shape =>
      have quoted : quotedName? (quote :: (name ++ [quote])) = some (String.ofList name) :=
        (quotedName?_eq_some_iff (opens.isTrimmed opens name)).2
          ⟨quote, name, opens, rfl, filled, inner, rfl⟩
      have plain := ofPlain_of_naming naming ((keyword_trim content).trans shape) quoted
      rw [trimmed, String.toList_ofList] at plain
      dsimp only
      split
      · rename_i sign
        exact absurd rfl (naming.no_sign shape (congrArg List.head? sign)).1
      · rename_i sign
        exact absurd rfl (naming.no_sign shape (congrArg List.head? sign)).2.1
      · exact plain
    | closes shape word =>
      rw [shape]
      simp [Token.ofClosing, word, Token.directive?]

/-- Behind another opening brace no token stands for a directive. -/
theorem not_lexSpells_brace {inner : List Char} {directive : Directive} :
    ¬ LexSpells ('{' :: inner) directive := by
  have head : (trim ('{' :: inner)).head? = some '{' := head?_trim (by decide) inner
  intro spells
  cases spells with
  | named naming _ _ _ shape => exact (naming.no_sign shape head).2.2 rfl
  | closes shape _ =>
    rw [shape] at head
    cases head

/-- The word of a block is trimmed. -/
theorem isTrimmed_block : IsTrimmed "block".toList := by
  constructor
  · rintro c ⟨⟩
    decide
  · rintro c ⟨⟩
    decide

/-- What a token closes a block with is a slash and the word, with white space between. -/
theorem exists_of_closes {content rest : List Char} (shape : trim content = '/' :: rest)
    (word : trim rest = "block".toList) :
    ∃ gap, IsGap gap ∧ trim content = '/' :: (gap ++ "block".toList) := by
  obtain ⟨gap, behind, front, back, _, whole⟩ := exists_trim rest
  obtain ⟨_, _, _, _, sharp, _⟩ := exists_trim content
  rw [word] at whole
  cases behind with
  | nil => exact ⟨gap, front, by rw [shape, whole, List.append_nil]⟩
  | cons d behind =>
    exfalso
    obtain ⟨last, ends⟩ := Option.isSome_iff_exists.1
      (List.getLast?_isSome.2 (List.cons_ne_nil d behind))
    have final : (trim content).getLast? = some last := by
      rw [shape, whole, ← List.cons_append, ← List.append_assoc, List.getLast?_append, ends]
      rfl
    have blank := back last (List.mem_of_getLast? ends)
    rw [sharp.stop last final] at blank
    cases blank

end NoteTemplate.Template
