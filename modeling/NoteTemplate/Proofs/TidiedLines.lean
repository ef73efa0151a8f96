import Mathlib.Data.List.SplitBy
import NoteTemplate.Document
import NoteTemplate.Proofs.KeptLines
import NoteTemplate.Proofs.TokenCuts

/-!
# Blank lines put in order

Putting the blank lines of a text in order is a change of its lines: the blank ones at the front
are dropped, every other run of two or more of them becomes one empty line, and all other lines
stay (`lines_tidied`). In the outcome no two blank lines follow each other and none stands at the
front, so a second pass changes nothing. No tags come about either: a text without a tag is a
template that renders to its lines put in order, and so is the outcome.
-/

namespace NoteTemplate.Template

open Text (lines)

/-- A line that holds spaces and tabs only, up to the line feed that ends it. What follows the last
line feed of a text is no blank line. -/
def isBlankLine (line : List Char) : Bool := line.dropWhile isIndent = ['\n']

/-- Lines in groups: blank lines that follow each other are together, and every other line is by
itself. -/
def blankGroups (lines : List (List Char)) : List (List (List Char)) :=
  lines.splitBy fun first second => isBlankLine first && isBlankLine second

/-- One empty line for two or more blank lines. -/
def shortened (group : List (List Char)) : List (List Char) :=
  if 2 ≤ group.length then [['\n']] else group

/-- Lines with one empty line for every run of two or more blank ones. -/
def withShortRuns (lines : List (List Char)) : List (List Char) :=
  (blankGroups lines).flatMap shortened

/-- Lines with no blank one at the front and one empty line for every other run of two or more. -/
def tidiedLines (lines : List (List Char)) : List (List Char) :=
  withShortRuns (lines.dropWhile isBlankLine)

/-! ## Runs of blank lines -/

section Runs

variable {line : List Char} {run rest : List (List Char)}

/-- A line that is not blank stays. -/
theorem withShortRuns_cons (filled : isBlankLine line = false) :
    withShortRuns (line :: rest) = line :: withShortRuns rest := by
  have groups : blankGroups ([line] ++ rest) = blankGroups [line] ++ blankGroups rest := by
    apply List.splitBy_append
    simp [filled]
  unfold withShortRuns
  rw [← List.singleton_append, groups, List.flatMap_append]
  rfl

/-- A run of blank lines is shortened by itself, up to a line that is not blank. -/
theorem withShortRuns_run (blank : ∀ line ∈ run, isBlankLine line = true)
    (stops : ∀ line ∈ rest.head?, isBlankLine line = false) :
    withShortRuns (run ++ rest) = shortened run ++ withShortRuns rest := by
  by_cases empty : run = []
  · subst empty
    rfl
  have together : blankGroups run = [run] := by
    apply List.splitBy_of_isChain empty
    apply List.Pairwise.isChain
    apply List.pairwise_of_forall_mem_list
    intro first here second there
    simp [blank first here, blank second there]
  have groups : blankGroups (run ++ rest) = blankGroups run ++ blankGroups rest := by
    apply List.splitBy_append
    intro first _ second follows
    simp [stops second follows]
  unfold withShortRuns
  rw [groups, together, List.flatMap_append, List.flatMap_singleton]

/-- The line behind a run of blank lines is not blank. -/
theorem dropWhile_isBlankLine_stops (lines : List (List Char)) :
    ∀ line ∈ (lines.dropWhile isBlankLine).head?, isBlankLine line = false := by
  intro line first
  have kept := List.head?_dropWhile_not isBlankLine lines
  rw [Option.mem_def.1 first] at kept
  exact kept

/-- The front of lines is a run of blank ones, which is shortened, up to a line that is not. -/
theorem withShortRuns_eq (lines : List (List Char)) :
    withShortRuns lines = shortened (lines.takeWhile isBlankLine) ++
      withShortRuns (lines.dropWhile isBlankLine) := by
  conv_lhs => rw [← List.takeWhile_append_dropWhile (p := isBlankLine) (l := lines)]
  exact withShortRuns_run (fun line member => (List.mem_takeWhile_imp member))
    (dropWhile_isBlankLine_stops lines)

/-- Shortening runs keeps whether the first line is blank. -/
theorem withShortRuns_head?_filled (stops : ∀ line ∈ rest.head?, isBlankLine line = false) :
    ∀ line ∈ (withShortRuns rest).head?, isBlankLine line = false := by
  cases rest with
  | nil => exact nofun
  | cons first others =>
    rw [withShortRuns_cons (stops first rfl)]
    exact stops

/-- A shortened run has less than two lines. -/
theorem shortened_length (group : List (List Char)) : (shortened group).length < 2 := by
  unfold shortened
  split
  · decide
  · omega

/-- A shortened run is short. -/
theorem shortened_shortened (group : List (List Char)) :
    shortened (shortened group) = shortened group :=
  if_neg (Nat.not_le.2 (shortened_length group))

/-- A shortened run of blank lines holds blank lines. -/
theorem isBlankLine_of_mem_shortened (blank : ∀ line ∈ run, isBlankLine line = true) :
    ∀ line ∈ shortened run, isBlankLine line = true := by
  unfold shortened
  split
  · intro line member
    obtain rfl := List.mem_singleton.1 member
    decide
  · exact blank

/-- Runs that were shortened are short. -/
theorem withShortRuns_withShortRuns (lines : List (List Char)) :
    withShortRuns (withShortRuns lines) = withShortRuns lines := by
  -- by the length of the lines: what follows a run or a line that is not blank is shorter
  induction size : lines.length using Nat.strong_induction_on generalizing lines with
  | _ length ih =>
    subst size
    have blank : ∀ line ∈ lines.takeWhile isBlankLine, isBlankLine line = true :=
      fun line member => List.mem_takeWhile_imp member
    have behind : withShortRuns (withShortRuns (lines.dropWhile isBlankLine)) =
        withShortRuns (lines.dropWhile isBlankLine) := by
      have shorter := (List.dropWhile_suffix (l := lines) isBlankLine).length_le
      cases left : lines.dropWhile isBlankLine with
      | nil => rfl
      | cons first others =>
        have filled : isBlankLine first = false := by
          apply dropWhile_isBlankLine_stops lines
          rw [left]
          rfl
        rw [left, List.length_cons] at shorter
        rw [withShortRuns_cons filled, withShortRuns_cons filled, ih _ (by omega) others rfl]
    rw [withShortRuns_eq lines]
    rw [withShortRuns_run (isBlankLine_of_mem_shortened blank)
      (withShortRuns_head?_filled (dropWhile_isBlankLine_stops lines)), shortened_shortened, behind]

/-- No blank lines stand at the front of lines that start with another one. -/
theorem takeWhile_of_stops (stops : ∀ line ∈ rest.head?, isBlankLine line = false) :
    rest.takeWhile isBlankLine = [] := by
  cases rest with
  | nil => rfl
  | cons first others =>
    apply List.takeWhile_cons_of_neg
    simp [stops first rfl]

/-- No blank lines are dropped from the front of lines that start with another one. -/
theorem dropWhile_of_stops (stops : ∀ line ∈ rest.head?, isBlankLine line = false) :
    rest.dropWhile isBlankLine = rest := by
  have whole := List.takeWhile_append_dropWhile (p := isBlankLine) (l := rest)
  rwa [takeWhile_of_stops stops] at whole

/-- It does not matter whether runs are shortened before the blank lines at the front are dropped
or behind that. -/
theorem dropWhile_withShortRuns (lines : List (List Char)) :
    (withShortRuns lines).dropWhile isBlankLine = tidiedLines lines := by
  have blank : ∀ line ∈ shortened (lines.takeWhile isBlankLine), isBlankLine line = true :=
    isBlankLine_of_mem_shortened fun line member => List.mem_takeWhile_imp member
  rw [withShortRuns_eq, List.dropWhile_append_of_pos blank]
  exact dropWhile_of_stops (withShortRuns_head?_filled (dropWhile_isBlankLine_stops lines))

/-- Lines in order stay as they are. -/
theorem tidiedLines_tidiedLines (lines : List (List Char)) :
    tidiedLines (tidiedLines lines) = tidiedLines lines := by
  rw [← dropWhile_withShortRuns (tidiedLines lines)]
  have stops := withShortRuns_head?_filled (dropWhile_isBlankLine_stops lines)
  calc (withShortRuns (tidiedLines lines)).dropWhile isBlankLine
      = (tidiedLines lines).dropWhile isBlankLine :=
        congrArg _ (withShortRuns_withShortRuns _)
    _ = tidiedLines lines := dropWhile_of_stops stops

/-- Lines with the first one as it stands and short runs behind it. -/
def withShortRunsBehind : List (List Char) → List (List Char)
  | [] => []
  | first :: others => first :: withShortRuns others

/-- A run of less than two blank lines at the front is no run to be shortened. -/
theorem withShortRunsBehind_eq {lines : List (List Char)}
    (few : (lines.takeWhile isBlankLine).length < 2) :
    withShortRunsBehind lines = withShortRuns lines := by
  cases lines with
  | nil => rfl
  | cons first others =>
    cases blank : isBlankLine first with
    | false => exact (withShortRuns_cons blank).symm
    | true =>
      rw [List.takeWhile_cons_of_pos blank, List.length_cons] at few
      have none : others.takeWhile isBlankLine = [] := List.length_eq_zero_iff.1 (by omega)
      have whole := List.takeWhile_append_dropWhile (p := isBlankLine) (l := others)
      rw [none, List.nil_append] at whole
      have stops := dropWhile_isBlankLine_stops others
      rw [whole] at stops
      have single : ∀ line ∈ [first], isBlankLine line = true := by simpa using blank
      exact (withShortRuns_run single stops).symm

/-- Keeping the first line does not matter when the blank lines at the front are dropped. -/
theorem dropWhile_withShortRunsBehind (lines : List (List Char)) :
    (withShortRunsBehind lines).dropWhile isBlankLine = tidiedLines lines := by
  cases lines with
  | nil => rfl
  | cons first others =>
    cases blank : isBlankLine first with
    | false =>
      rw [← dropWhile_withShortRuns, withShortRuns_cons blank]
      rfl
    | true =>
      have same : tidiedLines (first :: others) = tidiedLines others :=
        congrArg withShortRuns (List.dropWhile_cons_of_pos blank)
      rw [same, ← dropWhile_withShortRuns others]
      exact List.dropWhile_cons_of_pos blank

end Runs

/-! ## Blank lines of a text -/

section Blank

variable {text rest : List Char}

/-- A text up to its first line feed is a line. -/
theorem lines_line {inner : List Char} (whole : '\n' ∉ inner) (rest : List Char) :
    lines (inner ++ '\n' :: rest) = (inner ++ ['\n']) :: lines rest := by
  induction inner with
  | nil => rfl
  | cons c inner ih =>
    rw [List.mem_cons, not_or] at whole
    show Text.addToLines c (lines (inner ++ '\n' :: rest)) = _
    rw [ih whole.2, Text.addToLines, if_neg (Ne.symm whole.1)]
    rfl

/-- A blank line stands at the front of a text when its first line is blank, and what is left
behind it are the other lines. -/
theorem dropBlankLine?_eq_some_iff :
    dropBlankLine? text = some rest ↔
      ∃ line, isBlankLine line = true ∧ lines text = line :: lines rest := by
  constructor
  · intro dropped
    unfold dropBlankLine? at dropped
    split at dropped
    · rename_i found
      obtain rfl := Option.some.inj dropped
      have indents : ∀ c ∈ text.takeWhile isIndent, isIndent c = true :=
        fun c member => List.mem_takeWhile_imp member
      have whole : '\n' ∉ text.takeWhile isIndent :=
        fun member => absurd (indents _ member) (by decide)
      refine ⟨text.takeWhile isIndent ++ ['\n'], ?_, ?_⟩
      · unfold isBlankLine
        rw [List.dropWhile_append_of_pos indents]
        rfl
      · rw [← lines_line whole, ← found, List.takeWhile_append_dropWhile]
    · cases dropped
  · rintro ⟨line, blank, cut⟩
    have split : text = line ++ rest := by
      rw [← Text.lines_flatten text, cut, List.flatten_cons, Text.lines_flatten]
    have feed : line.dropWhile isIndent = ['\n'] := of_decide_eq_true blank
    unfold dropBlankLine?
    rw [split, List.dropWhile_append, feed]
    rfl

/-- Dropping the blank lines at the front of a text drops its first lines as long as they are
blank, and counts them. -/
theorem dropBlankLinesFrom_lines (count : Nat) (text : List Char) :
    (dropBlankLinesFrom count text).1 = count + ((lines text).takeWhile isBlankLine).length ∧
      lines (dropBlankLinesFrom count text).2 = (lines text).dropWhile isBlankLine := by
  fun_induction dropBlankLinesFrom count text with
  | case1 count text rest dropped ih =>
    obtain ⟨line, blank, cut⟩ := dropBlankLine?_eq_some_iff.1 dropped
    rw [cut, List.takeWhile_cons_of_pos blank, List.dropWhile_cons_of_pos blank, List.length_cons]
    exact ⟨by omega, ih.2⟩
  | case2 count text whole =>
    cases cut : lines text with
    | nil => exact ⟨rfl, rfl⟩
    | cons first others =>
      have filled : ¬ isBlankLine first = true := by
        intro blank
        have dropped : dropBlankLine? text = some others.flatten := by
          refine dropBlankLine?_eq_some_iff.2 ⟨first, blank, ?_⟩
          rw [Text.lines_tail cut, cut]
        rw [whole] at dropped
        cases dropped
      rw [List.takeWhile_cons_of_neg filled, List.dropWhile_cons_of_neg filled]
      exact ⟨rfl, rfl⟩

/-- How many blank lines stand at the front of a text. -/
theorem dropBlankLines_count (text : List Char) :
    (dropBlankLines text).1 = ((lines text).takeWhile isBlankLine).length := by
  have counted := (dropBlankLinesFrom_lines 0 text).1
  rwa [Nat.zero_add] at counted

/-- What is left of a text behind the blank lines at its front. -/
theorem lines_dropBlankLines (text : List Char) :
    lines (dropBlankLines text).2 = (lines text).dropWhile isBlankLine :=
  (dropBlankLinesFrom_lines 0 text).2

/-- Reducing runs of blank lines shortens the runs behind the first line. -/
theorem lines_collapseBlankLines (text : List Char) :
    lines (collapseBlankLines text) = withShortRunsBehind (lines text) := by
  induction text using blankLineInduction with
  | nil =>
    rw [collapseBlankLines_nil]
    rfl
  | run rest many ih =>
    have long : 2 ≤ ((lines rest).takeWhile isBlankLine).length := by
      rwa [← dropBlankLines_count]
    have single : shortened ((lines rest).takeWhile isBlankLine) = [['\n']] := if_pos long
    have few : (((lines rest).dropWhile isBlankLine).takeWhile isBlankLine).length < 2 := by
      rw [takeWhile_of_stops (dropWhile_isBlankLine_stops _)]
      decide
    rw [collapseBlankLines_run many]
    change ['\n'] :: ['\n'] :: lines (collapseBlankLines (dropBlankLines rest).2) =
      ['\n'] :: withShortRuns (lines rest)
    rw [ih, lines_dropBlankLines, withShortRunsBehind_eq few, withShortRuns_eq (lines rest), single]
    rfl
  | cons c rest single ih =>
    rw [collapseBlankLines_cons single]
    change Text.addToLines c (lines (collapseBlankLines rest)) =
      withShortRunsBehind (Text.addToLines c (lines rest))
    rw [ih]
    by_cases feed : c = '\n'
    · have few : ((lines rest).takeWhile isBlankLine).length < 2 := by
        rw [← dropBlankLines_count]
        exact Nat.not_le.1 fun many => single ⟨feed, many⟩
      rw [withShortRunsBehind_eq few]
      unfold Text.addToLines
      rw [if_pos feed, if_pos feed]
      rfl
    · unfold Text.addToLines
      rw [if_neg feed, if_neg feed]
      cases lines rest with
      | nil => rfl
      | cons first others => rfl

/-- Putting the blank lines of a text in order puts its lines in order. -/
theorem lines_tidied (text : List Char) : lines (tidied text) = tidiedLines (lines text) := by
  unfold tidied
  rw [lines_dropBlankLines, lines_collapseBlankLines, dropWhile_withShortRunsBehind]

end Blank

/-! ## Texts without tags -/

section Plain

variable {text mark more : List Char}

/-- A mark within a line that a reduced text starts with starts the text, and what follows it is
reduced by itself. -/
theorem collapseBlankLines_starts (inner : ∀ c ∈ mark, isLineEnd c = false)
    (starts : collapseBlankLines text = mark ++ more) :
    ∃ rest, text = mark ++ rest ∧ collapseBlankLines rest = more := by
  induction mark generalizing text with
  | nil => exact ⟨text, rfl, starts⟩
  | cons c mark ih =>
    cases text with
    | nil =>
      rw [collapseBlankLines_nil] at starts
      cases starts
    | cons d rest =>
      obtain rfl : d = c := by
        by_cases run : d = '\n' ∧ 2 ≤ (dropBlankLines rest).1
        · obtain ⟨rfl, many⟩ := run
          rw [collapseBlankLines_run many] at starts
          exact (List.cons.inj starts).1
        · rw [collapseBlankLines_cons run] at starts
          exact (List.cons.inj starts).1
      rw [collapseBlankLines_inner d rest (inner d List.mem_cons_self)] at starts
      obtain ⟨behind, rfl, reduced⟩ := ih (fun e member => inner e (List.mem_cons_of_mem _ member))
        (List.cons.inj starts).2
      exact ⟨behind, rfl, reduced⟩

/-- A mark within a line that stands in a reduced text stands in the text, and what follows it is
reduced by itself. -/
theorem collapseBlankLines_holds (filled : mark ≠ []) (inner : ∀ c ∈ mark, isLineEnd c = false)
    {before : List Char} (holds : collapseBlankLines text = before ++ (mark ++ more)) :
    ∃ front rest, text = front ++ (mark ++ rest) ∧ collapseBlankLines rest = more := by
  have noFeed : ∀ rest, '\n' :: rest ≠ mark ++ more := by
    intro rest same
    obtain ⟨c, others, rfl⟩ := List.exists_cons_of_ne_nil filled
    obtain ⟨rfl, -⟩ := List.cons.inj same
    exact absurd (inner '\n' List.mem_cons_self) (by decide)
  induction text using blankLineInduction generalizing before with
  | nil =>
    rw [collapseBlankLines_nil] at holds
    have empty := (List.append_eq_nil_iff.1 holds.symm).2
    exact absurd (List.append_eq_nil_iff.1 empty).1 filled
  | run rest many ih =>
    rw [collapseBlankLines_run many] at holds
    match before with
    | [] => exact absurd holds (noFeed _)
    | [_] => exact absurd (List.cons.inj holds).2 (noFeed _)
    | _ :: _ :: before =>
      obtain ⟨front, behind, cut, reduced⟩ := ih (List.cons.inj (List.cons.inj holds).2).2
      rcases dropBlankLinesFrom_cut 0 rest with whole | ⟨blank, split⟩
      · exact ⟨'\n' :: front, behind, congrArg _ (whole.symm.trans cut), reduced⟩
      · refine ⟨'\n' :: (blank ++ '\n' :: front), behind, ?_, reduced⟩
        change (dropBlankLinesFrom 0 rest).2 = _ at cut
        rw [split, cut]
        simp
  | cons c rest single ih =>
    cases before with
    | nil =>
      obtain ⟨behind, cut, reduced⟩ := collapseBlankLines_starts inner holds
      exact ⟨[], behind, cut, reduced⟩
    | cons d before =>
      rw [collapseBlankLines_cons single] at holds
      obtain ⟨front, behind, cut, reduced⟩ := ih (List.cons.inj holds).2
      exact ⟨c :: front, behind, congrArg _ cut, reduced⟩

/-- No tag comes about when runs of blank lines are reduced. -/
theorem holdsTag_of_collapseBlankLines (holds : HoldsTag (collapseBlankLines text)) :
    HoldsTag text := by
  obtain ⟨before, content, behind, holds⟩ := holds
  have opens : opening ≠ [] ∧ ∀ c ∈ opening, isLineEnd c = false := by simp [opening, isLineEnd]
  have closes : closing ≠ [] ∧ ∀ c ∈ closing, isLineEnd c = false := by simp [closing, isLineEnd]
  obtain ⟨front, rest, rfl, reduced⟩ := collapseBlankLines_holds opens.1 opens.2 holds
  obtain ⟨inside, last, rfl, -⟩ := collapseBlankLines_holds closes.1 closes.2 reduced
  exact ⟨front, inside, last, rfl⟩

/-- No tag comes about when the blank lines of a text are put in order. -/
theorem tidied_plain (plain : ¬ HoldsTag text) : ¬ HoldsTag (tidied text) := by
  intro holds
  apply plain
  apply holdsTag_of_collapseBlankLines
  rcases dropBlankLinesFrom_cut 0 (collapseBlankLines text) with whole | ⟨front, cut⟩
  · rwa [← whole]
  · obtain ⟨before, content, behind, holds⟩ := holds
    change (dropBlankLinesFrom 0 (collapseBlankLines text)).2 = _ at holds
    refine ⟨front ++ '\n' :: before, content, behind, ?_⟩
    rw [cut, holds]
    simp

/-- A text without a tag has no first one. -/
theorem firstTag?_of_plain (plain : ¬ HoldsTag text) : firstTag? text = none := by
  cases found : firstTag? text with
  | none => rfl
  | some parts =>
    obtain ⟨before, content, behind⟩ := parts
    refine absurd ⟨before, content, behind, ?_⟩ plain
    rw [← firstTag?_append found]
    simp [Piece.source]

end Plain

/-- A text without a tag is a template, whose tree renders to the text. -/
theorem parse_plain {text : String} (plain : ¬ HoldsTag text.toList) :
    ∃ nodes, parse text = .ok nodes ∧ ∀ {σ : Type} (insert : Scope → String → Attempt σ Fragment)
      (scope : Scope), renderBody insert scope nodes = pure (.ofText text) := by
  have cut : tokens text = placeFrom 1 (literalPiece text.toList) := by
    rw [tokens, pieces, firstTag?_of_plain plain]
  unfold parse
  rw [cut]
  unfold literalPiece
  by_cases empty : text = ""
  · subst empty
    exact ⟨[], rfl, fun insert scope => rfl⟩
  · have filled : ¬ text.toList.isEmpty = true := by
      simpa [List.isEmpty_iff] using empty
    rw [if_neg filled]
    refine ⟨[.text text], ?_, fun insert scope => ?_⟩
    · simp [placeFrom, parseFrom, ParserState.step, ParserState.finish, ParserState.add,
        ParserState.body, Piece.token]
    · simp [renderBody, renderNode, Fragment.append, Fragment.ofText, Fragment.empty]

end NoteTemplate.Template

namespace NoteTemplate

open Template (Compiled Fetch HoldsTag Warning tidiedLines tidy)

/-- A text renders to another one, whatever its name, whatever the context and whatever else is
stored. It is no fallback, and only its header can add a warning to those it came with. -/
def ShowsAs (text shown : String) : Prop :=
  ∀ (σ : Type) (fetch : Fetch σ) (limit : Nat) (name : String) (warnings : List Warning)
    (context : Context), renderCompiled fetch limit (Compiled.ofText name text warnings) context =
      pure (.ofText name shown warnings false)

/-- A text without a tag renders to its lines put in order. -/
theorem showsAs_tidy {text : String} (plain : ¬ HoldsTag text.toList) :
    ShowsAs text (tidy text) := by
  intro σ fetch limit name warnings context
  obtain ⟨nodes, parsed, shown⟩ := Template.parse_plain plain
  unfold renderCompiled Template.renderTree
  simp only [Compiled.ofText, parsed, shown]
  simp [Template.Fragment.ofText]

/-- Where no templates are stored, too. -/
theorem ShowsAs.renderText_eq {text shown : String} (shows : ShowsAs text shown) (limit : Nat)
    (context : Context) : renderText limit text context = some (.ofText "" shown [] false) := by
  unfold renderText renderAlone
  rw [shows]
  rfl

/-- Putting the blank lines of a text in order puts its lines in order: none of the blank lines at
the front is left, every other run of two or more of them is one empty line, and all other lines
are as they were. A second time changes nothing. A text without a tag renders to its lines put in
order, and what it renders to renders to itself. -/
theorem tidy_by_lines (text : String) :
    tidy text = String.ofList (tidiedLines (Text.lines text.toList)).flatten ∧
    tidy (tidy text) = tidy text ∧
    (¬ HoldsTag text.toList →
      ShowsAs text (tidy text) ∧ ShowsAs (tidy text) (tidy text) ∧
      ∀ limit context, ∃ document, renderText limit text context = some document ∧
        document.text = tidy text ∧
        ∀ again, renderText limit document.text again = some document) := by
  have ordered : tidy text = String.ofList (tidiedLines (Text.lines text.toList)).flatten := by
    rw [← Template.lines_tidied, Text.lines_flatten]
    rfl
  have twice : tidy (tidy text) = tidy text := by
    unfold tidy
    rw [String.toList_ofList, ← Text.lines_flatten (Template.tidied (Template.tidied text.toList)),
      Template.lines_tidied, Template.lines_tidied, Template.tidiedLines_tidiedLines,
      ← Template.lines_tidied, Text.lines_flatten]
  refine ⟨ordered, twice, fun plain => ?_⟩
  have plainAgain : ¬ HoldsTag (tidy text).toList := by
    unfold tidy
    rw [String.toList_ofList]
    exact Template.tidied_plain plain
  have shows : ShowsAs text (tidy text) := showsAs_tidy plain
  have showsAgain : ShowsAs (tidy text) (tidy text) := by
    have again : ShowsAs (tidy text) (tidy (tidy text)) := showsAs_tidy plainAgain
    rwa [twice] at again
  refine ⟨shows, showsAgain, fun limit context => ?_⟩
  exact ⟨_, shows.renderText_eq limit context, rfl, showsAgain.renderText_eq limit⟩

/-- A text with blank lines at its front and between others, and with braces that are no tag. -/
theorem tidy_by_lines_spaced :
    ¬ HoldsTag "\n a\n\n\t\nb \x7b\x7b".toList ∧
      ShowsAs "\n a\n\n\t\nb \x7b\x7b" " a\n\nb \x7b\x7b" := by
  have plain : ¬ HoldsTag "\n a\n\n\t\nb \x7b\x7b".toList :=
    Template.plain_of_firstTag?_none (by decide +kernel)
  have ordered : tidy "\n a\n\n\t\nb \x7b\x7b" = " a\n\nb \x7b\x7b" := by decide +kernel
  have shows := ((tidy_by_lines "\n a\n\n\t\nb \x7b\x7b").2.2 plain).1
  rw [ordered] at shows
  exact ⟨plain, shows⟩

example : tidy " \n\na\n \n\t\n  " = "a\n\n  " := by decide +kernel

end NoteTemplate
