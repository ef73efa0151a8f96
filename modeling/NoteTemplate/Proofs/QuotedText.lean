import NoteTemplate.Text.Blank
import NoteTemplate.Yaml.Scalar

/-!
# Texts between double quotes

A text can be put between double quotes as it is when it holds no character with a meaning of
its own there, and when no later line of it looks like a line that separates documents. Then
the reading of the scalar goes on to the closing quote, across all of its lines
(`Yaml.readDouble_quoted`).
-/

namespace NoteTemplate

/-- A character that ends a line, to a reader of YAML. -/
def isLineEnd (c : Char) : Bool :=
  c = '\n' || c = '\r' || c = '\u0085' || c = '\u2028' || c = '\u2029'

/-- Whether a text starts with so many times a mark, and white space behind them. -/
def startsMarks (mark : Char) : Nat → List Char → Bool
  | _, [] => false
  | 0, c :: _ => Text.isBlank c
  | count + 1, c :: rest => c = mark && startsMarks mark count rest

/-- Whether a text starts with three hyphens or three dots, and white space behind them. Such a
line separates documents, or ends a header. -/
def startsSeparator (text : List Char) : Bool := startsMarks '-' 3 text || startsMarks '.' 3 text

/-- Whether no line of a text starts with a separator, given whether the text itself stands at the
start of a line. -/
def isUnseparated (atStart : Bool) : List Char → Bool
  | [] => true
  | c :: rest => !(atStart && startsSeparator (c :: rest)) && isUnseparated (isLineEnd c) rest

/-- A character that stands for itself between double quotes. -/
def isQuotableCharacter (c : Char) : Bool := Yaml.isAllowed c && c ≠ '"' && c ≠ '\\'

/-- Whether a text can stand between double quotes as it is, if it does not start a line there. -/
def isQuotable (text : List Char) : Bool := text.all isQuotableCharacter && isUnseparated false text

/-- A character that takes part in no separator. -/
def isApart (c : Char) : Bool := c ≠ '-' && c ≠ '.' && !Text.isBlank c

/-- The end of a line is white space. -/
theorem isBlank_of_isLineEnd {c : Char} (ends : isLineEnd c = true) : Text.isBlank c = true := by
  simp only [isLineEnd, Bool.or_eq_true, decide_eq_true_eq] at ends
  rcases ends with (((rfl | rfl) | rfl) | rfl) | rfl <;> decide

/-- A text in which a test finds no end of a line stands within a line. -/
theorem isLineEnd_of_all {text : List Char} (whole : text.all (!isLineEnd ·) = true) :
    ∀ c ∈ text, isLineEnd c = false := by
  simpa using whole

section Separators

variable {c : Char} {text rest : List Char}

/-- Marks end before a character that is neither a mark nor white space. -/
theorem startsMarks_append {mark : Char} (other : c ≠ mark) (black : Text.isBlank c = false)
    (count : Nat) (text rest : List Char) :
    startsMarks mark count (text ++ c :: rest) = startsMarks mark count text := by
  induction text generalizing count with
  | nil => cases count <;> simp [startsMarks, other, black]
  | cons d text ih =>
    cases count with
    | zero => rfl
    | succ count => exact congrArg (decide (d = mark) && ·) (ih count)

/-- A separator ends before a character that takes part in none. -/
theorem startsSeparator_append (apart : isApart c = true) (text rest : List Char) :
    startsSeparator (text ++ c :: rest) = startsSeparator text := by
  simp only [isApart, Bool.and_eq_true, decide_eq_true_eq, Bool.not_eq_true'] at apart
  obtain ⟨⟨noHyphen, noDot⟩, black⟩ := apart
  unfold startsSeparator
  rw [startsMarks_append noHyphen black, startsMarks_append noDot black]

/-- A character that takes part in no separator starts none. -/
theorem startsSeparator_of_isApart (apart : isApart c = true) (rest : List Char) :
    startsSeparator (c :: rest) = false :=
  startsSeparator_append apart [] rest

/-- A text without separators has none behind the start of a line either. -/
theorem isUnseparated_inner {atStart : Bool} (unseparated : isUnseparated atStart text = true) :
    isUnseparated false text = true := by
  cases text with
  | nil => rfl
  | cons c rest =>
    have behind := (Bool.and_eq_true_iff.1 unseparated).2
    simpa [isUnseparated] using behind

/-- Two texts have no separator when a character that takes part in none stands between them. -/
theorem isUnseparated_append (apart : isApart c = true) (atStart : Bool) (text rest : List Char) :
    isUnseparated atStart (text ++ c :: rest) =
      (isUnseparated atStart text && isUnseparated false rest) := by
  induction text generalizing atStart with
  | nil =>
    have inner : isLineEnd c = false := by
      cases ends : isLineEnd c with
      | false => rfl
      | true => simp [isApart, isBlank_of_isLineEnd ends] at apart
    simp [isUnseparated, startsSeparator_of_isApart apart, inner]
  | cons d text ih =>
    have same : startsSeparator (d :: (text ++ c :: rest)) = startsSeparator (d :: text) :=
      startsSeparator_append apart (d :: text) rest
    simp only [List.cons_append, isUnseparated, same, ih, Bool.and_assoc]

end Separators

namespace Yaml

/-- What a reader of YAML takes for the end of a line ends it. -/
theorem isLineEnd_of_isBreak {c : Char} (breaks : isBreak c = true) : isLineEnd c = true := by
  simp only [isBreak, Bool.or_eq_true, decide_eq_true_eq] at breaks
  rcases breaks with (rfl | rfl) | rfl <;> decide

/-- What a reader of YAML takes for void is white space. -/
theorem isBlank_of_isVoid {c : Char} (void : isVoid c = true) : Text.isBlank c = true := by
  rcases Bool.or_eq_true_iff.1 void with gap | breaks
  · simp only [isGap, Bool.or_eq_true, decide_eq_true_eq] at gap
    rcases gap with rfl | rfl <;> decide
  · exact isBlank_of_isLineEnd (isLineEnd_of_isBreak breaks)

/-- An empty text has no places. -/
theorem place_nil (line column : Nat) : place line column [] = [] := rfl

/-- The first character of a text with its place, and the places behind it. -/
theorem place_cons (line column : Nat) (c : Char) (rest : List Char) :
    place line column (c :: rest) = ⟨c, line, column⟩ ::
      place (if isBreak c then line + 1 else line) (if isBreak c then 0 else column + 1) rest := by
  rw [place]
  split <;> rfl

/-- Letters that start a line between documents start with three marks and white space, unless
they end behind the marks. -/
theorem startsMark_place {mark : Char} {line column : Nat} {text : List Char}
    (starts : startsMark mark (place line column text) = true) :
    column = 0 ∧ (text = [mark, mark, mark] ∨ startsMarks mark 3 text = true) := by
  match text with
  | [] => cases starts
  | [_] => simp [place_cons, place_nil, startsMark] at starts
  | [_, _] => simp [place_cons, place_nil, startsMark] at starts
  | first :: second :: third :: more =>
    simp only [place_cons, startsMark, Bool.and_eq_true, decide_eq_true_eq] at starts
    obtain ⟨⟨⟨⟨rfl, rfl⟩, rfl⟩, rfl⟩, void⟩ := starts
    refine ⟨rfl, ?_⟩
    cases more with
    | nil => exact .inl rfl
    | cons next more =>
      rw [place_cons] at void
      have blank : Text.isBlank next = true := isBlank_of_isVoid void
      exact .inr (by simp [startsMarks, blank])

/-- No line between documents starts in front of a closing quote where there is no separator. -/
theorem startsDocumentMark_quoted (line : Nat) {column : Nat} {text : List Char} (more : List Char)
    (unseparated : isUnseparated (column = 0) text = true) :
    startsDocumentMark (place line column (text ++ '"' :: more)) = false := by
  have apart : isApart '"' = true := by decide
  have none : column = 0 → startsSeparator (text ++ '"' :: more) = false := by
    intro start
    rw [startsSeparator_append apart]
    cases text with
    | nil => rfl
    | cons c rest => simpa [isUnseparated, start] using (Bool.and_eq_true_iff.1 unseparated).1
  have noMark : ∀ mark, mark ∈ ['-', '.'] →
      startsMark mark (place line column (text ++ '"' :: more)) = false := by
    intro mark known
    refine Bool.eq_false_iff.2 fun starts => ?_
    obtain ⟨start, ended | marks⟩ := startsMark_place starts
    · have quote : '"' ∈ [mark, mark, mark] := ended ▸ List.mem_append_right _ List.mem_cons_self
      obtain rfl : '"' = mark := by simpa using quote
      simp at known
    · have starts : startsSeparator (text ++ '"' :: more) = true := by
        simp only [List.mem_cons, List.not_mem_nil, or_false] at known
        rcases known with rfl | rfl <;> simp [startsSeparator, marks]
      rw [none start] at starts
      cases starts
  unfold startsDocumentMark
  rw [noMark '-' (by simp), noMark '.' (by simp)]
  rfl

/-- What a text becomes between double quotes, given what was read before it in reverse and the gap
behind that: a line break with the spaces around it is folded. -/
def foldedFrom (reversed : List Char) (gap : Gap) : List Char → List Char
  | [] => reversed.reverse ++ gap.text
  | c :: rest =>
    if isGap c then foldedFrom reversed (gap.addBlank c) rest
    else if isBreak c then foldedFrom reversed (gap.addBreak c) rest
    else foldedFrom (addBehind reversed gap c) .empty rest

/-- What a text becomes between double quotes. -/
def folded (text : List Char) : List Char := foldedFrom [] .empty text

/-- A text that holds no quote, no backslash and no separator at the start of a line is read as one
scalar up to the quote behind it. -/
theorem readDouble_quoted {text : List Char} (plain : ∀ c ∈ text, c ≠ '"' ∧ c ≠ '\\')
    (more reversed : List Char) (gap : Gap) (line column : Nat)
    (unseparated : isUnseparated (column = 0) text = true) :
    ∃ line' ≥ line, ∃ column',
      readDouble reversed gap (place line column (text ++ '"' :: more)) =
        some (foldedFrom reversed gap text, place line' (column' + 1) more) := by
  induction text generalizing reversed gap line column with
  | nil =>
    have noMark := startsDocumentMark_quoted line more unseparated
    rw [List.nil_append, place_cons] at noMark ⊢
    refine ⟨line, Nat.le_refl _, column, ?_⟩
    unfold readDouble
    dsimp only
    rw [if_neg (by decide), if_neg (by decide), if_neg (by simpa using noMark), if_pos rfl]
    rfl
  | cons c text ih =>
    obtain ⟨noQuote, noBackslash⟩ := plain c List.mem_cons_self
    have ih := ih fun d member => plain d (List.mem_cons_of_mem _ member)
    have behind := (Bool.and_eq_true_iff.1 unseparated).2
    have noMark := startsDocumentMark_quoted line more unseparated
    rw [List.cons_append, place_cons] at noMark ⊢
    unfold readDouble foldedFrom
    dsimp only
    cases breaks : isBreak c with
    | true =>
      have noGap : isGap c = false := by
        simp only [isBreak, Bool.or_eq_true, decide_eq_true_eq] at breaks
        rcases breaks with (rfl | rfl) | rfl <;> decide
      rw [isLineEnd_of_isBreak breaks] at behind
      obtain ⟨line', later, column', read⟩ :=
        ih reversed (gap.addBreak c) (line + 1) 0 (by simpa using behind)
      refine ⟨line', by omega, column', ?_⟩
      simpa [noGap] using read
    | false =>
      have inner : isUnseparated (column + 1 = 0) text = true := by
        simpa using isUnseparated_inner behind
      have next := fun reversed gap => ih reversed gap line (column + 1) inner
      rw [breaks] at noMark
      cases gap? : isGap c with
      | true => simpa using next reversed (gap.addBlank c)
      | false =>
        simp only [Bool.false_eq_true, if_false] at noMark
        simpa [noMark, noQuote, noBackslash] using next (addBehind reversed gap c) .empty

end Yaml

end NoteTemplate
