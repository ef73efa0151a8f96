import NoteTemplate.Text.Pieces

/-!
# Blank lines of a rendered text

A line is blank when it holds spaces and tabs only. Runs of blank lines are
reduced to a single empty line, and blank lines at the start are removed.
-/

namespace NoteTemplate.Template

/-- A space or a tab. -/
def isIndent (c : Char) : Bool := c = ' ' || c = '\t'

/-- The text behind the blank line at its front, if there is one. -/
def dropBlankLine? (text : List Char) : Option (List Char) :=
  match text.dropWhile isIndent with
  | '\n' :: rest => some rest
  | _ => none

/-- What is left behind a blank line is shorter. -/
theorem dropBlankLine?_length {text rest : List Char} (h : dropBlankLine? text = some rest) :
    rest.length < text.length := by
  unfold dropBlankLine? at h
  split at h
  · rename_i found
    simp at h
    subst h
    have := (List.dropWhile_suffix (l := text) isIndent).length_le
    rw [found] at this
    simp at this
    omega
  · simp at h

/-- The text behind the blank lines at its front, and how many there are, given how
many were read before. -/
def dropBlankLinesFrom (count : Nat) (text : List Char) : Nat × List Char :=
  match _found : dropBlankLine? text with
  | some rest => dropBlankLinesFrom (count + 1) rest
  | none => (count, text)
termination_by text.length
decreasing_by exact dropBlankLine?_length ‹_›

/-- How many blank lines stand at the front of a text, and the text behind them. -/
def dropBlankLines (text : List Char) : Nat × List Char := dropBlankLinesFrom 0 text

/-- Dropping blank lines does not lengthen a text. -/
theorem dropBlankLinesFrom_length (count : Nat) (text : List Char) :
    (dropBlankLinesFrom count text).2.length ≤ text.length := by
  fun_induction dropBlankLinesFrom count text with
  | case1 _ _ _ found ih =>
    have := dropBlankLine?_length found
    omega
  | case2 => simp

/-- Reduces every run of two or more blank lines behind a line feed to one empty
line, given what was written before in reverse. -/
def collapseBlankLinesFrom (reversed text : List Char) : List Char :=
  match text with
  | [] => reversed.reverse
  | c :: rest =>
    if c = '\n' ∧ 2 ≤ (dropBlankLines rest).1 then
      collapseBlankLinesFrom ('\n' :: '\n' :: reversed) (dropBlankLines rest).2
    else collapseBlankLinesFrom (c :: reversed) rest
termination_by text.length
decreasing_by
  · have := dropBlankLinesFrom_length 0 rest
    simp [dropBlankLines]
    omega
  · simp

/-- Reduces every run of two or more blank lines behind a line feed to one empty
line. -/
def collapseBlankLines (text : List Char) : List Char := collapseBlankLinesFrom [] text

/-- A text with its blank lines put in order. -/
def tidied (text : List Char) : List Char := (dropBlankLines (collapseBlankLines text)).2

/-- A string with its blank lines put in order. -/
def tidy (text : String) : String := String.ofList (tidied text.toList)

end NoteTemplate.Template
