import Mathlib.Data.List.Chain
import Mathlib.Data.List.Forall2
import NoteTemplate.Proofs.LexedTags

/-!
# How tokens are cut from a text

A text is cut into stretches, one for each token and in the same order. The stretch of a literal is
its text, and every other stretch is a tag whose content means the token (`Token.CutFrom`). Nothing
between the stretches is lost, no two literals are neighbours, no literal holds a tag, and a token
stands on the line that the stretches before it lead to (`tokens_cut`).
-/

namespace NoteTemplate.Template

/-- Somewhere in a text, closing braces follow opening braces. -/
def HoldsTag (text : List Char) : Prop :=
  ∃ before content behind, text = before ++ (opening ++ (content ++ (closing ++ behind)))

/-- A content with no opening and no closing braces in it. -/
def IsTagContent (content : List Char) : Prop := ¬ opening <:+: content ∧ ¬ closing <:+: content

/-- A literal token. -/
def Token.IsLiteral (token : Token) : Prop := ∃ text, token = .text text

/-- A token and the stretch of a text that it was cut from. -/
inductive Token.CutFrom : Token → List Char → Prop where
  /-- A literal was cut from its own text, which is not empty and holds no tag. -/
  | literal {text : String} (filled : text ≠ "") (plain : ¬ HoldsTag text.toList) :
      CutFrom (.text text) text.toList
  /-- Any other token was cut from a tag, and is what the content of the tag means. -/
  | tag {content : List Char} (inner : IsTagContent content)
      (other : ¬ (Token.ofTag content).IsLiteral) :
      CutFrom (Token.ofTag content) (opening ++ (content ++ closing))

/-! ## What tags mean -/

section Meaning

variable (content : List Char)

/-- A number sign makes no literal. -/
theorem ofOpening_not_literal (afterSign : List Char) :
    ¬ (Token.ofOpening content afterSign).IsLiteral := by
  rintro ⟨text, same⟩
  unfold Token.ofOpening at same
  dsimp only at same
  repeat' split at same
  all_goals cases same

/-- A slash makes no literal. -/
theorem ofClosing_not_literal (afterSlash : List Char) :
    ¬ (Token.ofClosing content afterSlash).IsLiteral := by
  rintro ⟨text, same⟩
  unfold Token.ofClosing at same
  dsimp only at same
  repeat' split at same
  all_goals cases same

/-- A keyword with a quoted name makes no literal. -/
theorem ofNamed?_not_literal {token : Token} (named : Token.ofNamed? content = some token) :
    ¬ token.IsLiteral := by
  rintro ⟨text, rfl⟩
  unfold Token.ofNamed? at named
  dsimp only at named
  repeat' split at named
  all_goals simp at named

/-- Content without a sign at its front makes no literal. -/
theorem ofPlain_not_literal : ¬ (Token.ofPlain content).IsLiteral := by
  unfold Token.ofPlain
  split
  · exact nofun
  · split
    · rename_i token named
      exact ofNamed?_not_literal content named
    · split
      · exact nofun
      · split <;> exact nofun

/-- No tag means literal text. -/
theorem ofTag_not_literal : ¬ (Token.ofTag content).IsLiteral := by
  unfold Token.ofTag
  dsimp only
  split
  · exact ofOpening_not_literal _ _
  · exact ofClosing_not_literal _ _
  · exact ofPlain_not_literal _

end Meaning

/-! ## Where the pieces lie -/

/-- A pattern that starts at no place of a text is nowhere in it. -/
theorem not_infix_of_suffixes {pattern text : List Char}
    (nowhere : ∀ suffix, suffix <:+ text → ¬ pattern <+: suffix) : ¬ pattern <:+: text := by
  rintro ⟨before, behind, rfl⟩
  rw [List.append_assoc] at nowhere
  exact nowhere _ (List.suffix_append _ _) (List.prefix_append _ _)

/-- A content that ends first has no closing braces in it. -/
theorem EndsFirst.no_closing {content : List Char} (first : EndsFirst content) :
    ¬ closing <:+: content := by
  apply not_infix_of_suffixes
  intro suffix ends starts
  have filled : suffix ≠ [] := by
    rintro rfl
    exact absurd (List.prefix_nil.1 starts) (by decide)
  exact first suffix filled ends (starts.trans (List.prefix_append _ _))

/-- The content of the first tag has no braces of a tag in it. -/
theorem firstTag?_isTagContent {text before content behind : List Char}
    (found : firstTag? text = some (before, content, behind)) : IsTagContent content := by
  refine ⟨?_, (firstTag?_endsFirst found).no_closing⟩
  obtain ⟨front, outer, _, _, _, ⟨uncut, _, rfl⟩ | ⟨more, cut, _⟩⟩ := firstTag?_eq_some found
  · exact not_infix_of_suffixes (cutLastOpening?_none uncut)
  · apply not_infix_of_suffixes
    intro suffix ends
    exact cutLastOpening?_last cut suffix (ends.trans (List.suffix_cons _ _))

/-- Closing braces do not start within opening braces. -/
theorem closing_suffix_behind {late more : List Char}
    (ends : closing ++ late <:+ opening ++ more) : closing ++ late <:+ more := by
  rcases suffix_append_cases ends with later | ⟨braces, filled, inOpening, same⟩
  · exact later
  · exfalso
    obtain ⟨c, braces, rfl⟩ := List.exists_cons_of_ne_nil filled
    have brace : c = '{' := by
      have member := inOpening.subset List.mem_cons_self
      simpa [opening] using member
    have other : '}' = c := (List.cons.inj same).1
    rw [brace] at other
    exact absurd other (by decide)

/-- What stands before the first tag holds no tag: opening braces in it are the first of the text,
and the closing braces that follow those stand at the end of the tag. -/
theorem firstTag?_plain {text before content behind : List Char}
    (found : firstTag? text = some (before, content, behind)) : ¬ HoldsTag before := by
  rintro ⟨early, inner, late, holds⟩
  have ends : opening ++ (inner ++ (closing ++ late)) <:+ before := by
    rw [holds]
    exact List.suffix_append _ _
  obtain ⟨front, outer, _, firstOpening, first, shape⟩ := firstTag?_eq_some found
  rcases shape with ⟨_, rfl, _⟩ | ⟨more, cut, rfl⟩
  · exact firstOpening _ (by simp [opening]) ends (List.prefix_append _ _)
  · rcases suffix_append_cases ends with fromOpening | ⟨suffix, filled, inFront, same⟩
    · have closes : closing ++ late <:+ opening ++ more :=
        (List.suffix_append inner _).trans ((List.suffix_append opening _).trans fromOpening)
      have inMore : closing ++ late <:+ more := closing_suffix_behind closes
      have moreInOuter : more <:+: outer := by
        rw [← cutLastOpening?_append cut, List.append_assoc]
        exact (List.prefix_append _ _).isInfix
      apply first.no_closing
      exact (List.prefix_append closing late).isInfix.trans (inMore.isInfix.trans moreInOuter)
    · have starts : opening <+: (suffix ++ opening) ++ more := by
        rw [List.append_assoc, ← same]
        exact List.prefix_append _ _
      have short : opening <+: suffix ++ opening :=
        List.prefix_of_prefix_length_le starts (List.prefix_append _ _) (by simp)
      apply firstOpening suffix filled inFront
      rw [← List.append_assoc]
      exact short.trans (List.prefix_append _ _)

/-- A text without a first tag holds none. -/
theorem plain_of_firstTag?_none {text : List Char} (missing : firstTag? text = none) :
    ¬ HoldsTag text := by
  rintro ⟨before, content, behind, holds⟩
  have inText : opening ++ (content ++ (closing ++ behind)) <:+ text := by
    rw [holds]
    exact List.suffix_append _ _
  exact firstTag?_none missing inText

/-! ## The pieces -/

/-- A piece of literal text. -/
def Piece.IsLiteral (piece : Piece) : Prop := ∃ text, piece = .literal text

/-- No two of some pieces that follow each other are literal. -/
def NoLiteralsMeet (pieces : List Piece) : Prop :=
  pieces.IsChain fun first second => ¬ (first.IsLiteral ∧ second.IsLiteral)

/-- The token of a piece was cut from its source. -/
def Piece.IsCut (piece : Piece) : Prop := piece.token.CutFrom piece.source

/-- The token of a tag was cut from it. -/
theorem isCut_tag {content : List Char} (inner : IsTagContent content) :
    (Piece.tag content).IsCut := by
  have cut := Token.CutFrom.tag inner (ofTag_not_literal content)
  rw [← List.append_assoc] at cut
  exact cut

/-- A text without tags is cut into itself, or into nothing if it is empty. -/
theorem isCut_literalPiece {text : List Char} (plain : ¬ HoldsTag text) :
    ∀ piece ∈ literalPiece text, piece.IsCut := by
  intro piece member
  unfold literalPiece at member
  split at member
  · exact absurd member List.not_mem_nil
  · rename_i filled
    obtain rfl := List.mem_singleton.1 member
    have named : String.ofList text ≠ "" := by
      intro same
      have empty := congrArg String.toList same
      rw [String.toList_ofList] at empty
      exact filled (List.isEmpty_iff.2 empty)
    have alsoPlain : ¬ HoldsTag (String.ofList text).toList := by
      rw [String.toList_ofList]
      exact plain
    have cut := Token.CutFrom.literal named alsoPlain
    rw [String.toList_ofList] at cut
    exact cut

/-- The sources of the literal piece are the literal. -/
theorem literalPiece_sources (text : List Char) :
    ((literalPiece text).map Piece.source).flatten = text := by
  unfold literalPiece
  split
  · rename_i empty
    exact (List.isEmpty_iff.1 empty).symm
  · simp [Piece.source]

/-- The sources of the pieces are the text. -/
theorem pieces_sources (text : List Char) : ((pieces text).map Piece.source).flatten = text := by
  fun_induction pieces text with
  | case1 text missing => exact literalPiece_sources text
  | case2 text before content behind found ih =>
    rw [List.map_append, List.flatten_append, literalPiece_sources, List.map_cons,
      List.flatten_cons, ih, ← firstTag?_append found, List.append_assoc]

/-- Every piece of a text is the source of its token. -/
theorem pieces_isCut (text : List Char) : ∀ piece ∈ pieces text, piece.IsCut := by
  fun_induction pieces text with
  | case1 text missing => exact isCut_literalPiece (plain_of_firstTag?_none missing)
  | case2 text before content behind found ih =>
    intro piece member
    rcases List.mem_append.1 member with early | late
    · exact isCut_literalPiece (firstTag?_plain found) piece early
    · rcases List.mem_cons.1 late with rfl | later
      · exact isCut_tag (firstTag?_isTagContent found)
      · exact ih piece later

/-- A tag may stand in front of any pieces. -/
theorem NoLiteralsMeet.cons_tag {content : List Char} {rest : List Piece}
    (apart : NoLiteralsMeet rest) : NoLiteralsMeet (.tag content :: rest) := by
  apply List.isChain_cons.2
  refine ⟨?_, apart⟩
  rintro next _ ⟨⟨text, isTag⟩, _⟩
  cases isTag

/-- A literal may stand in front of a tag. -/
theorem NoLiteralsMeet.literalPiece_append {content : List Char} {rest : List Piece}
    (text : List Char) (apart : NoLiteralsMeet rest) :
    NoLiteralsMeet (literalPiece text ++ .tag content :: rest) := by
  have behind : NoLiteralsMeet (.tag content :: rest) := apart.cons_tag
  unfold literalPiece
  split
  · exact behind
  · apply List.isChain_cons_cons.2
    refine ⟨?_, behind⟩
    rintro ⟨_, ⟨text, isTag⟩⟩
    cases isTag

/-- The literals of a text are kept apart by its tags. -/
theorem pieces_noLiteralsMeet (text : List Char) : NoLiteralsMeet (pieces text) := by
  fun_induction pieces text with
  | case1 text missing =>
    unfold literalPiece
    split
    · exact List.IsChain.nil
    · exact List.IsChain.singleton _
  | case2 text before content behind found ih => exact ih.literalPiece_append before

/-! ## The tokens -/

/-- Only the token of a literal piece is literal. -/
theorem isLiteral_of_token {piece : Piece} (literal : piece.token.IsLiteral) : piece.IsLiteral := by
  cases piece with
  | literal text => exact ⟨text, rfl⟩
  | tag content => exact absurd literal (ofTag_not_literal content)

/-- Placing pieces keeps their tokens. -/
theorem placeFrom_tokens (line : Nat) (pieces : List Piece) :
    (placeFrom line pieces).map Placed.token = pieces.map Piece.token := by
  induction pieces generalizing line with
  | nil => rfl
  | cons piece rest ih => rw [placeFrom, List.map_cons, ih, List.map_cons]

/-- A piece stands on the line that the line feeds before it lead to. -/
theorem placeFrom_line (line : Nat) (pieces : List Piece) {index : Nat} {placed : Placed}
    (here : (placeFrom line pieces)[index]? = some placed) :
    placed.line = line + lineFeeds ((pieces.map Piece.source).take index).flatten := by
  induction pieces generalizing line index with
  | nil => simp [placeFrom] at here
  | cons piece rest ih =>
    rw [placeFrom] at here
    cases index with
    | zero =>
      obtain rfl : _ = placed := Option.some.inj here
      simp [lineFeeds]
    | succ index =>
      rw [List.getElem?_cons_succ] at here
      have behind := ih (line + lineFeeds piece.source) here
      rw [behind, List.map_cons, List.take_succ_cons, List.flatten_cons]
      simp only [lineFeeds, List.count_append]
      omega

/-- Tokenising loses nothing. Every text is cut into stretches, one for each of its tokens and in
the same order, which put together are the text: a literal token was cut from its own text, which
is not empty and in which no closing braces follow opening braces, and every other token from a tag
whose content has no such braces and means the token. No two literal tokens follow each other, and
every token stands on the line of its first character. -/
theorem tokens_cut (text : String) :
    ∃ cuts : List (List Char), cuts.flatten = text.toList ∧
      List.Forall₂ (fun placed cut => placed.token.CutFrom cut) (tokens text) cuts ∧
      (tokens text).IsChain (fun first second =>
        ¬ (first.token.IsLiteral ∧ second.token.IsLiteral)) ∧
      ∀ index placed, (tokens text)[index]? = some placed →
        placed.line = 1 + lineFeeds (cuts.take index).flatten := by
  have same : (tokens text).map Placed.token = (pieces text.toList).map Piece.token :=
    placeFrom_tokens 1 _
  refine ⟨(pieces text.toList).map Piece.source, pieces_sources _, ?_, ?_, ?_⟩
  · have cuts : List.Forall₂ Token.CutFrom ((pieces text.toList).map Piece.token)
        ((pieces text.toList).map Piece.source) := by
      rw [List.forall₂_map_left_iff, List.forall₂_map_right_iff, List.forall₂_same]
      exact pieces_isCut _
    rw [← same, List.forall₂_map_left_iff] at cuts
    exact cuts
  · have apart : ((pieces text.toList).map Piece.token).IsChain fun first second =>
        ¬ (first.IsLiteral ∧ second.IsLiteral) := by
      rw [List.isChain_map]
      refine (pieces_noLiteralsMeet text.toList).imp ?_
      rintro first second apart ⟨left, right⟩
      exact apart ⟨isLiteral_of_token left, isLiteral_of_token right⟩
    rw [← same, List.isChain_map] at apart
    exact apart
  · intro index placed here
    exact placeFrom_line 1 _ here

example : tokens (String.ofList opening ++ " a\n" ++ tagText "b") =
    [⟨.text (String.ofList opening ++ " a\n"), 1⟩, ⟨.variable "b", 2⟩] := by decide +kernel

end NoteTemplate.Template
