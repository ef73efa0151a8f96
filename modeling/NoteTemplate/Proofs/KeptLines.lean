import Mathlib.Data.List.TakeWhile
import NoteTemplate.Proofs.QuotedText
import NoteTemplate.Template.Layout

/-!
# Changes that keep lines

Two changes of a text are made between a template and the reading of its header: runs of blank
lines are reduced, and line breaks are unified. Both keep what the lines of a header are
(`KeepsLines`): they change nothing within a line, a text that takes part in no separator cuts
them in two, and a text that can be quoted stays one.
-/

namespace NoteTemplate

/-- A change of a text that touches nothing but the ends of its lines. -/
structure KeepsLines (change : List Char → List Char) : Prop where
  /-- Nothing comes of nothing. -/
  nil : change [] = []
  /-- A character within a line stays. -/
  inner : ∀ c rest, isLineEnd c = false → change (c :: rest) = c :: change rest
  /-- White space at the front stays white space. -/
  blank : ∀ c rest, Text.isBlank c = true →
    ∃ d more, change (c :: rest) = d :: more ∧ Text.isBlank d = true
  /-- A line feed with less than two blank lines behind it stays. -/
  feed : ∀ rest, (Template.dropBlankLines rest).1 < 2 → change ('\n' :: rest) = '\n' :: change rest
  /-- What stands before a character that takes part in no separator is changed by itself. -/
  append : ∀ text c rest, isApart c = true →
    change (text ++ c :: rest) = change text ++ change (c :: rest)
  /-- No characters come up but line feeds. -/
  characters : ∀ text, ∀ c ∈ change text, c ∈ text ∨ c = '\n'
  /-- No separators come up. -/
  separators : ∀ text atStart, isUnseparated atStart text = true →
    isUnseparated atStart (change text) = true

/-- A change that keeps characters within lines and white space keeps the marks at the front. -/
theorem startsMarks_change {change : List Char → List Char} (nil : change [] = [])
    (inner : ∀ c rest, isLineEnd c = false → change (c :: rest) = c :: change rest)
    (blank : ∀ c rest, Text.isBlank c = true →
      ∃ d more, change (c :: rest) = d :: more ∧ Text.isBlank d = true)
    {mark : Char} (black : Text.isBlank mark = false) (count : Nat) (text : List Char) :
    startsMarks mark count (change text) = startsMarks mark count text := by
  induction count generalizing text with
  | zero =>
    cases text with
    | nil => rw [nil]
    | cons c rest =>
      cases white : Text.isBlank c with
      | true =>
        obtain ⟨d, more, changed, white'⟩ := blank c rest white
        rw [changed]
        exact white'.trans white.symm
      | false =>
        have within : isLineEnd c = false := Bool.eq_false_iff.2 fun ends => by
          simp [isBlank_of_isLineEnd ends] at white
        rw [inner c rest within]
        rfl
  | succ count ih =>
    cases text with
    | nil => rw [nil]
    | cons c rest =>
      cases white : Text.isBlank c with
      | true =>
        obtain ⟨d, more, changed, white'⟩ := blank c rest white
        have other : ∀ e, Text.isBlank e = true → e ≠ mark := by
          rintro e white rfl
          rw [black] at white
          cases white
        rw [changed]
        simp [startsMarks, other c white, other d white']
      | false =>
        have within : isLineEnd c = false := Bool.eq_false_iff.2 fun ends => by
          simp [isBlank_of_isLineEnd ends] at white
        rw [inner c rest within]
        exact congrArg (decide (c = mark) && ·) (ih rest)

/-- A change that keeps characters within lines and white space keeps separators at the front. -/
theorem startsSeparator_change {change : List Char → List Char} (nil : change [] = [])
    (inner : ∀ c rest, isLineEnd c = false → change (c :: rest) = c :: change rest)
    (blank : ∀ c rest, Text.isBlank c = true →
      ∃ d more, change (c :: rest) = d :: more ∧ Text.isBlank d = true) (text : List Char) :
    startsSeparator (change text) = startsSeparator text := by
  have black : Text.isBlank '-' = false := by decide
  have hyphens := startsMarks_change nil inner blank black 3 text
  have dots := startsMarks_change nil inner blank (show Text.isBlank '.' = false by decide) 3 text
  rw [startsSeparator, hyphens, dots, startsSeparator]

namespace KeepsLines

variable {change : List Char → List Char}

/-- Texts within a line stay. -/
theorem within (keeps : KeepsLines change) {text : List Char}
    (whole : ∀ c ∈ text, isLineEnd c = false) (rest : List Char) :
    change (text ++ rest) = text ++ change rest := by
  induction text with
  | nil => rfl
  | cons c text ih =>
    rw [List.cons_append, keeps.inner c _ (whole c List.mem_cons_self),
      ih fun d member => whole d (List.mem_cons_of_mem _ member)]
    rfl

/-- A text that can be quoted stays one. -/
theorem isQuotable (keeps : KeepsLines change) {text : List Char}
    (quotable : isQuotable text = true) : NoteTemplate.isQuotable (change text) = true := by
  obtain ⟨plain, unseparated⟩ := Bool.and_eq_true_iff.1 quotable
  have characters : (change text).all isQuotableCharacter = true := by
    refine List.all_eq_true.2 fun c member => ?_
    rcases keeps.characters text c member with old | rfl
    · exact List.all_eq_true.1 plain c old
    · decide
  exact Bool.and_eq_true_iff.2 ⟨characters, keeps.separators text false unseparated⟩

end KeepsLines

namespace Template

/-- What was written before is in front of what is still to be written. -/
theorem collapseBlankLinesFrom_append (reversed text before : List Char) :
    collapseBlankLinesFrom (reversed ++ before) text =
      before.reverse ++ collapseBlankLinesFrom reversed text := by
  induction reversed, text using collapseBlankLinesFrom.induct with
  | case1 reversed => simp [collapseBlankLinesFrom]
  | case2 reversed c rest run ih =>
    rw [collapseBlankLinesFrom, if_pos run, collapseBlankLinesFrom, if_pos run]
    exact ih
  | case3 reversed c rest single ih =>
    rw [collapseBlankLinesFrom, if_neg single, collapseBlankLinesFrom, if_neg single]
    exact ih

/-- A run of blank lines behind a line feed becomes an empty line. -/
theorem collapseBlankLines_run {rest : List Char} (run : 2 ≤ (dropBlankLines rest).1) :
    collapseBlankLines ('\n' :: rest) =
      '\n' :: '\n' :: collapseBlankLines (dropBlankLines rest).2 := by
  unfold collapseBlankLines
  rw [collapseBlankLinesFrom, if_pos ⟨rfl, run⟩]
  exact collapseBlankLinesFrom_append [] _ ['\n', '\n']

/-- Any other character stays. -/
theorem collapseBlankLines_cons {c : Char} {rest : List Char}
    (single : ¬ (c = '\n' ∧ 2 ≤ (dropBlankLines rest).1)) :
    collapseBlankLines (c :: rest) = c :: collapseBlankLines rest := by
  unfold collapseBlankLines
  rw [collapseBlankLinesFrom, if_neg single]
  exact collapseBlankLinesFrom_append [] _ [c]

/-- To prove something of all texts, prove it of the empty text, of a text with a run of blank
lines behind its first line feed from what stands behind the run, and of any other text from what
stands behind its first character. -/
theorem blankLineInduction {motive : List Char → Prop} (nil : motive [])
    (run : ∀ rest, 2 ≤ (dropBlankLines rest).1 → motive (dropBlankLines rest).2 →
      motive ('\n' :: rest))
    (cons : ∀ c rest, ¬ (c = '\n' ∧ 2 ≤ (dropBlankLines rest).1) → motive rest →
      motive (c :: rest)) (text : List Char) : motive text := by
  induction [], text using collapseBlankLinesFrom.induct with
  | case1 _ => exact nil
  | case2 _ c rest blank ih =>
    obtain ⟨rfl, many⟩ := blank
    exact run rest many ih
  | case3 _ c rest single ih => exact cons c rest single ih

/-- What is left behind a blank line stands behind a line feed. -/
theorem dropBlankLine?_cut {text rest : List Char} (dropped : dropBlankLine? text = some rest) :
    ∃ front, text = front ++ '\n' :: rest := by
  unfold dropBlankLine? at dropped
  split at dropped
  · rename_i found
    obtain rfl := Option.some.inj dropped
    refine ⟨text.takeWhile isIndent, ?_⟩
    rw [← found, List.takeWhile_append_dropWhile]
  · cases dropped

/-- What is left behind blank lines is the text, or stands behind a line feed in it. -/
theorem dropBlankLinesFrom_cut (count : Nat) (text : List Char) :
    (dropBlankLinesFrom count text).2 = text ∨
      ∃ front, text = front ++ '\n' :: (dropBlankLinesFrom count text).2 := by
  fun_induction dropBlankLinesFrom count text with
  | case1 count text rest dropped ih =>
    obtain ⟨front, cut⟩ := dropBlankLine?_cut dropped
    refine .inr ?_
    rcases ih with whole | ⟨more, behind⟩
    · exact ⟨front, whole.symm ▸ cut⟩
    · exact ⟨front ++ '\n' :: more, by rw [List.append_assoc, List.cons_append, ← behind, cut]⟩
  | case2 => exact .inl rfl

/-- No blank line stands at the front of a text that starts with spaces and a character that is no
white space. -/
theorem dropBlankLine?_of_black (gap : List Char) {c : Char} (rest : List Char)
    (indented : ∀ d ∈ gap, isIndent d = true) (black : Text.isBlank c = false) :
    dropBlankLine? (gap ++ c :: rest) = none := by
  have stops : isIndent c = false := by
    refine Bool.eq_false_iff.2 fun indents => ?_
    simp only [isIndent, Bool.or_eq_true, decide_eq_true_eq] at indents
    rcases indents with rfl | rfl <;> exact absurd black (by decide)
  have noFeed : c ≠ '\n' := by
    rintro rfl
    exact absurd black (by decide)
  unfold dropBlankLine?
  rw [List.dropWhile_append_of_pos indented, List.dropWhile_cons_of_neg (by simp [stops])]
  split
  · rename_i same
    exact absurd (List.cons.inj same).1 noFeed
  · rfl

/-- A blank line at the front of a text is not changed by what stands behind the text, from a
character on that is no white space. -/
theorem dropBlankLine?_append (text : List Char) {c : Char} (rest : List Char)
    (black : Text.isBlank c = false) :
    dropBlankLine? (text ++ c :: rest) = (dropBlankLine? text).map (· ++ c :: rest) := by
  cases behind : text.dropWhile isIndent with
  | nil =>
    have indented : ∀ d ∈ text, isIndent d = true := List.dropWhile_eq_nil_iff.1 behind
    rw [dropBlankLine?_of_black _ rest indented black]
    simp [dropBlankLine?, behind]
  | cons d more =>
    have longer : (text ++ c :: rest).dropWhile isIndent = d :: (more ++ c :: rest) := by
      rw [List.dropWhile_append, behind]
      rfl
    unfold dropBlankLine?
    rw [behind, longer]
    by_cases feed : d = '\n'
    · subst feed
      rfl
    · simp [feed]

/-- Blank lines at the front of a text are not changed by what stands behind the text, from a
character on that is no white space. -/
theorem dropBlankLinesFrom_append (count : Nat) (text : List Char) {c : Char} (rest : List Char)
    (black : Text.isBlank c = false) :
    dropBlankLinesFrom count (text ++ c :: rest) =
      ((dropBlankLinesFrom count text).1, (dropBlankLinesFrom count text).2 ++ c :: rest) := by
  have same := fun text => dropBlankLine?_append text rest black
  fun_induction dropBlankLinesFrom count text with
  | case1 count text behind dropped ih =>
    rw [dropBlankLinesFrom, same, dropped]
    exact ih
  | case2 count text whole =>
    rw [dropBlankLinesFrom, same, whole]
    rfl

end Template

/-- The text behind a character has no separators where the whole text has none. -/
theorem isUnseparated_behind {atStart : Bool} (front : List Char) {rest : List Char} {c : Char}
    (unseparated : isUnseparated atStart (front ++ c :: rest) = true) :
    isUnseparated (isLineEnd c) rest = true := by
  induction front generalizing atStart with
  | nil => exact (Bool.and_eq_true_iff.1 unseparated).2
  | cons d front ih => exact ih (Bool.and_eq_true_iff.1 unseparated).2

section Collapsing

open Template

/-- Reducing runs of blank lines keeps characters within lines. -/
theorem collapseBlankLines_inner (c : Char) (rest : List Char) (inner : isLineEnd c = false) :
    collapseBlankLines (c :: rest) = c :: collapseBlankLines rest := by
  refine collapseBlankLines_cons fun run => ?_
  rw [run.1] at inner
  exact absurd inner (by decide)

/-- Reducing runs of blank lines keeps white space at the front. -/
theorem collapseBlankLines_blank (c : Char) (rest : List Char) (blank : Text.isBlank c = true) :
    ∃ d more, collapseBlankLines (c :: rest) = d :: more ∧ Text.isBlank d = true := by
  by_cases run : c = '\n' ∧ 2 ≤ (dropBlankLines rest).1
  · obtain ⟨rfl, many⟩ := run
    exact ⟨_, _, collapseBlankLines_run many, blank⟩
  · exact ⟨_, _, collapseBlankLines_cons run, blank⟩

/-- Reducing runs of blank lines leaves nothing of nothing. -/
theorem collapseBlankLines_nil : collapseBlankLines [] = [] := by
  simp [collapseBlankLines, collapseBlankLinesFrom]

/-- Reducing runs of blank lines brings no separators about. -/
theorem collapseBlankLines_separators (text : List Char) :
    ∀ atStart, isUnseparated atStart text = true →
      isUnseparated atStart (collapseBlankLines text) = true := by
  have marks : ∀ text, startsSeparator (collapseBlankLines text) = startsSeparator text :=
    startsSeparator_change collapseBlankLines_nil collapseBlankLines_inner collapseBlankLines_blank
  induction text using blankLineInduction with
  | nil => exact fun _ _ => by rw [collapseBlankLines_nil]; rfl
  | run rest many ih =>
    intro atStart unseparated
    have behind : isUnseparated true rest = true := (Bool.and_eq_true_iff.1 unseparated).2
    have below : isUnseparated true (dropBlankLines rest).2 = true := by
      rcases dropBlankLinesFrom_cut 0 rest with whole | ⟨front, cut⟩
      · exact whole.symm ▸ behind
      · rw [cut] at behind
        exact isUnseparated_behind _ behind
    have feed : isLineEnd '\n' = true := by decide
    rw [collapseBlankLines_run many]
    simpa [isUnseparated, startsSeparator, startsMarks, feed] using ih true below
  | cons c rest single ih =>
    intro atStart unseparated
    obtain ⟨first, behind⟩ := Bool.and_eq_true_iff.1 unseparated
    rw [← marks, collapseBlankLines_cons single] at first
    rw [collapseBlankLines_cons single]
    exact Bool.and_eq_true_iff.2 ⟨first, ih _ behind⟩

/-- What stands before a character that is no white space is reduced by itself. -/
theorem collapseBlankLines_append (text : List Char) {c : Char} (rest : List Char)
    (black : Text.isBlank c = false) :
    collapseBlankLines (text ++ c :: rest) =
      collapseBlankLines text ++ collapseBlankLines (c :: rest) := by
  have same := fun text => dropBlankLinesFrom_append 0 text rest black
  induction text using blankLineInduction with
  | nil => rw [collapseBlankLines_nil, List.nil_append, List.nil_append]
  | run below many ih =>
    have more : 2 ≤ (dropBlankLines (below ++ c :: rest)).1 := by
      unfold dropBlankLines
      rwa [same]
    have left :
        (dropBlankLines (below ++ c :: rest)).2 = (dropBlankLines below).2 ++ c :: rest := by
      unfold dropBlankLines
      rw [same]
    rw [List.cons_append, collapseBlankLines_run more, left, ih, collapseBlankLines_run many]
    rfl
  | cons d below single ih =>
    have few : ¬ (d = '\n' ∧ 2 ≤ (dropBlankLines (below ++ c :: rest)).1) := by
      unfold dropBlankLines
      rwa [same]
    rw [List.cons_append, collapseBlankLines_cons few, ih, collapseBlankLines_cons single]
    rfl

/-- Reducing runs of blank lines brings no characters about but line feeds. -/
theorem collapseBlankLines_characters (text : List Char) :
    ∀ c ∈ collapseBlankLines text, c ∈ text ∨ c = '\n' := by
  induction text using blankLineInduction with
  | nil => exact fun c member => .inl (collapseBlankLines_nil ▸ member)
  | run rest many ih =>
    intro c member
    rw [collapseBlankLines_run many, List.mem_cons, List.mem_cons] at member
    rcases member with feed | feed | below
    · exact .inr feed
    · exact .inr feed
    · refine (ih c below).imp_left fun left => List.mem_cons_of_mem _ ?_
      rcases dropBlankLinesFrom_cut 0 rest with whole | ⟨front, cut⟩
      · exact whole ▸ left
      · rw [cut]
        exact List.mem_append_right _ (List.mem_cons_of_mem _ left)
  | cons d rest single ih =>
    intro c member
    rw [collapseBlankLines_cons single, List.mem_cons] at member
    rcases member with rfl | behind
    · exact .inl List.mem_cons_self
    · exact (ih c behind).imp_left (List.mem_cons_of_mem _)

/-- Reducing runs of blank lines keeps lines. -/
theorem keepsLines_collapseBlankLines : KeepsLines collapseBlankLines where
  nil := collapseBlankLines_nil
  inner := collapseBlankLines_inner
  blank := collapseBlankLines_blank
  feed rest few := collapseBlankLines_cons fun run => absurd run.2 (by omega)
  append text c rest apart := collapseBlankLines_append text rest (by
    simp only [isApart, Bool.and_eq_true, Bool.not_eq_true'] at apart
    exact apart.2)
  characters := collapseBlankLines_characters
  separators text atStart := collapseBlankLines_separators text atStart

end Collapsing

namespace Yaml

/-- Any character but the first one of a pair that ends a line is unified by itself. -/
theorem unifyBreaks_cons {c : Char} {rest : List Char}
    (single : ∀ more, c = '\r' → rest ≠ '\n' :: more) :
    unifyBreaks (c :: rest) =
      (if c = '\r' ∨ c = '\u0085' then '\n' else c) :: unifyBreaks rest := by
  rw [unifyBreaks]
  exact single

/-- Unifying line breaks keeps characters within lines. -/
theorem unifyBreaks_inner (c : Char) (rest : List Char) (inner : isLineEnd c = false) :
    unifyBreaks (c :: rest) = c :: unifyBreaks rest := by
  simp only [isLineEnd, Bool.or_eq_false_iff, decide_eq_false_iff_not] at inner
  obtain ⟨⟨⟨⟨-, noReturn⟩, noNext⟩, -⟩, -⟩ := inner
  rw [unifyBreaks_cons fun _ same => absurd same noReturn,
    if_neg (not_or.2 ⟨noReturn, noNext⟩)]

/-- Unifying line breaks keeps white space at the front. -/
theorem unifyBreaks_blank (c : Char) (rest : List Char) (blank : Text.isBlank c = true) :
    ∃ d more, unifyBreaks (c :: rest) = d :: more ∧ Text.isBlank d = true := by
  by_cases pair : ∃ more, c = '\r' ∧ rest = '\n' :: more
  · obtain ⟨more, rfl, rfl⟩ := pair
    exact ⟨'\n', _, by rw [unifyBreaks], by decide⟩
  · refine ⟨_, _, unifyBreaks_cons fun more same pair' => pair ⟨more, same, pair'⟩, ?_⟩
    split
    · decide
    · exact blank

/-- Unifying line breaks brings no separators about. -/
theorem unifyBreaks_separators (text : List Char) :
    ∀ atStart, isUnseparated atStart text = true →
      isUnseparated atStart (unifyBreaks text) = true := by
  have marks : ∀ text, startsSeparator (unifyBreaks text) = startsSeparator text :=
    startsSeparator_change rfl unifyBreaks_inner unifyBreaks_blank
  induction text using unifyBreaks.induct with
  | case1 => exact fun _ _ => rfl
  | case2 rest ih =>
    intro atStart unseparated
    have behind : isUnseparated (isLineEnd '\n') rest = true :=
      isUnseparated_behind ['\r'] unseparated
    rw [unifyBreaks]
    simpa [isUnseparated, startsSeparator, startsMarks] using ih _ behind
  | case3 c rest single ih =>
    intro atStart unseparated
    obtain ⟨first, behind⟩ := Bool.and_eq_true_iff.1 unseparated
    rw [← marks] at first
    rw [unifyBreaks_cons single] at first ⊢
    refine Bool.and_eq_true_iff.2 ⟨first, ih _ ?_⟩
    split
    · rename_i ends
      have same : isLineEnd c = isLineEnd '\n' := by rcases ends with rfl | rfl <;> decide
      exact same ▸ behind
    · exact behind

/-- What stands before a character that does not end a line is unified by itself. -/
theorem unifyBreaks_append (text : List Char) {c : Char} (rest : List Char) (noFeed : c ≠ '\n') :
    unifyBreaks (text ++ c :: rest) = unifyBreaks text ++ unifyBreaks (c :: rest) := by
  induction text using unifyBreaks.induct with
  | case1 => rfl
  | case2 more ih =>
    rw [List.cons_append, List.cons_append, unifyBreaks, ih, unifyBreaks]
    rfl
  | case3 d more single ih =>
    have single' : ∀ below, d = '\r' → more ++ c :: rest ≠ '\n' :: below := by
      intro below same pair
      cases more with
      | nil => exact noFeed (List.cons.inj pair).1
      | cons e others =>
        obtain ⟨rfl, -⟩ := List.cons.inj pair
        exact single others same rfl
    rw [List.cons_append, unifyBreaks_cons single', ih, unifyBreaks_cons single]
    rfl

/-- Unifying line breaks brings no characters about but line feeds. -/
theorem unifyBreaks_characters (text : List Char) :
    ∀ c ∈ unifyBreaks text, c ∈ text ∨ c = '\n' := by
  induction text using unifyBreaks.induct with
  | case1 => exact fun c member => .inl member
  | case2 rest ih =>
    intro c member
    rw [unifyBreaks, List.mem_cons] at member
    rcases member with feed | behind
    · exact .inr feed
    · exact (ih c behind).imp_left fun old => List.mem_cons_of_mem _ (List.mem_cons_of_mem _ old)
  | case3 d rest single ih =>
    intro c member
    rw [unifyBreaks_cons single, List.mem_cons] at member
    rcases member with first | behind
    · split at first
      · exact .inr first
      · exact .inl (first ▸ List.mem_cons_self)
    · exact (ih c behind).imp_left (List.mem_cons_of_mem _)

/-- Unifying line breaks keeps lines. -/
theorem keepsLines_unifyBreaks : KeepsLines unifyBreaks where
  nil := rfl
  inner := unifyBreaks_inner
  blank := unifyBreaks_blank
  feed rest _ := by
    rw [unifyBreaks_cons fun _ same => absurd same (by decide)]
    rfl
  append text c rest apart := unifyBreaks_append text rest (by
    rintro rfl
    exact absurd apart (by decide))
  characters := unifyBreaks_characters
  separators text atStart := unifyBreaks_separators text atStart

end Yaml

end NoteTemplate
