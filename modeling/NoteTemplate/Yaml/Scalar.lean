import NoteTemplate.Number.Numeral
import NoteTemplate.Text.Character
import NoteTemplate.Yaml.Letter

/-!
# Scalars of a YAML text

The five ways to write a scalar: plain, between single or double quotes, and the
literal and folded blocks. Each reader starts behind the indicator and hands back
the text and what follows it. Spaces and line breaks inside a scalar are held back
in a `Gap` until it is known whether text follows them.
-/

namespace NoteTemplate.Yaml

/-- What stands between two stretches of text in a scalar. -/
inductive Gap where
  /-- Spaces and tabs within a line, the last one first. -/
  | blanks (reversed : List Char)
  /-- Line breaks, the last one first, with the spaces around them left out. -/
  | breaks (reversed : List Char)
  /-- Line breaks behind an escaped one, the last one first. -/
  | continued (reversed : List Char)

namespace Gap

/-- Nothing between two stretches. -/
def empty : Gap := .blanks []

/-- Line breaks as text: a single line feed becomes a space, of several the first is
dropped, and other separators stay. -/
def foldBreaks : List Char → List Char
  | ['\n'] => [' ']
  | '\n' :: more => more
  | others => others

/-- The text that a gap becomes when more text follows it. -/
def text : Gap → List Char
  | .blanks reversed => reversed.reverse
  | .breaks reversed => foldBreaks reversed.reverse
  | .continued reversed => reversed.reverse

/-- A gap with one more space or tab. At the end and the start of a line they do not
count. -/
def addBlank (gap : Gap) (c : Char) : Gap :=
  match gap with
  | .blanks reversed => .blanks (c :: reversed)
  | other => other

/-- A gap with one more line break. -/
def addBreak (gap : Gap) (c : Char) : Gap :=
  match gap with
  | .blanks _ => .breaks [c]
  | .breaks reversed => .breaks (c :: reversed)
  | .continued reversed => .continued (c :: reversed)

/-- Whether a gap reaches into another line. -/
def hasBreak : Gap → Bool
  | .blanks _ => false
  | _ => true

/-- Whether nothing was put into a gap. -/
def isEmpty : Gap → Bool
  | .blanks [] => true
  | _ => false

end Gap

/-- Text written so far in reverse, with what a gap becomes and one more character. -/
def addBehind (reversed : List Char) (gap : Gap) (c : Char) : List Char :=
  c :: (gap.text.reverse ++ reversed)

/-- An indicator of a flow collection. -/
def isFlowIndicator (c : Char) : Bool :=
  c = ',' || c = '[' || c = ']' || c = '{' || c = '}'

/-- Reads a plain scalar up to an indicator, a comment, or a line that is not indented
deeper than `indent`. The flag tells whether it ends behind a line break. -/
def readPlain (inFlow : Bool) (indent : Int) (reversed : List Char) (gap : Gap) :
    List Letter → Option (List Char × Bool × List Letter)
  | [] => some (reversed.reverse, gap.hasBreak, [])
  | letter :: rest =>
    let c := letter.char
    if isGap c then
      if gap.hasBreak ∧ c = '\t' ∧ (letter.column : Int) ≤ indent then none
      else readPlain inFlow indent reversed (gap.addBlank c) rest
    else if isBreak c then readPlain inFlow indent reversed (gap.addBreak c) rest
    else if !gap.isEmpty ∧
        ((!inFlow ∧ (letter.column : Int) ≤ indent) ∨ startsDocumentMark (letter :: rest) ∨
          c = '#') then
      some (reversed.reverse, gap.hasBreak, letter :: rest)
    else if inFlow ∧ c = ':' ∧
        (rest.head?.any fun next => isFlowIndicator next.char || next.char = '?') then
      none
    else if (c = ':' ∧ startsVoid rest) ∨ (inFlow ∧ isFlowIndicator c) then
      some (reversed.reverse, gap.hasBreak, letter :: rest)
    else readPlain inFlow indent (addBehind reversed gap c) .empty rest

/-- Reads a scalar behind a single quote. A quote inside is written twice. -/
def readSingle (reversed : List Char) (gap : Gap) : List Letter → Option (List Char × List Letter)
  | [] => none
  | letter :: rest =>
    let c := letter.char
    if isGap c then readSingle reversed (gap.addBlank c) rest
    else if isBreak c then readSingle reversed (gap.addBreak c) rest
    else if startsDocumentMark (letter :: rest) then none
    else if c = '\'' then
      match rest with
      | next :: more =>
        if next.char = '\'' then readSingle (addBehind reversed gap c) .empty more
        else some (reversed.reverse ++ gap.text, next :: more)
      | [] => some (reversed.reverse ++ gap.text, [])
    else readSingle (addBehind reversed gap c) .empty rest

/-- The character that a backslash and a letter stand for. -/
def escape? : Char → Option Char
  | '0' => some '\x00'
  | 'a' => some '\x07'
  | 'b' => some '\x08'
  | 't' => some '\t'
  | '\t' => some '\t'
  | 'n' => some '\n'
  | 'v' => some '\x0b'
  | 'f' => some '\x0c'
  | 'r' => some '\r'
  | 'e' => some '\x1b'
  | ' ' => some ' '
  | '"' => some '"'
  | '/' => some '/'
  | '\\' => some '\\'
  | 'N' => some '\u0085'
  | '_' => some '\u00a0'
  | 'L' => some '\u2028'
  | 'P' => some '\u2029'
  | _ => none

/-- How many hexadecimal digits follow a backslash and a letter. -/
def escapeLength? : Char → Option Nat
  | 'x' => some 2
  | 'u' => some 4
  | 'U' => some 8
  | _ => none

/-- Reads an escape behind its backslash. -/
def readEscape? : List Letter → Option (Char × List Letter)
  | [] => none
  | letter :: rest =>
    match escapeLength? letter.char with
    | none => (escape? letter.char).map fun c => (c, rest)
    | some count =>
      let digits := (rest.take count).map Letter.char
      if digits.length = count then
        ((Number.ofHex? digits).bind Text.ofCode?).map fun c => (c, rest.drop count)
      else none

/-- An escape leaves less than it was read from. -/
theorem readEscape?_length {text rest : List Letter} {c : Char}
    (h : readEscape? text = some (c, rest)) : rest.length < text.length := by
  unfold readEscape? at h
  split at h
  · simp at h
  · split at h
    · rw [Option.map_eq_some_iff] at h
      obtain ⟨_, _, same⟩ := h
      simp at same
      simp [← same.2]
    · dsimp only at h
      split at h
      · rw [Option.map_eq_some_iff] at h
        obtain ⟨_, _, same⟩ := h
        have behind := congrArg (List.length ∘ Prod.snd) same
        simp only [Function.comp_apply, List.length_drop] at behind
        simp only [List.length_cons]
        omega
      · simp at h

/-- Reads a scalar behind a double quote. -/
def readDouble (reversed : List Char) (gap : Gap) (text : List Letter) :
    Option (List Char × List Letter) :=
  match text with
  | [] => none
  | letter :: rest =>
    let c := letter.char
    if isGap c then readDouble reversed (gap.addBlank c) rest
    else if isBreak c then readDouble reversed (gap.addBreak c) rest
    else if startsDocumentMark (letter :: rest) then none
    else if c = '"' then some (reversed.reverse ++ gap.text, rest)
    else if c = '\\' then
      match rest with
      | [] => none
      | next :: more =>
        if isBreak next.char then readDouble (gap.text.reverse ++ reversed) (.continued []) more
        else
          match _found : readEscape? (next :: more) with
          | some (d, left) => readDouble (addBehind reversed gap d) .empty left
          | none => none
    else readDouble (addBehind reversed gap c) .empty rest
termination_by text.length
decreasing_by
  all_goals simp_wf
  all_goals try have := readEscape?_length ‹_›
  all_goals simp at *
  all_goals omega

/-- What happens to the line breaks at the end of a block. -/
inductive Chomping where
  /-- They are dropped. -/
  | strip
  /-- The first one is kept. -/
  | clip
  /-- All are kept. -/
  | keep
deriving Repr, DecidableEq

/-- Reads the mark for the line breaks at the end. -/
def readChomping : List Letter → Option Chomping × List Letter
  | letter :: rest =>
    if letter.char = '+' then (some .keep, rest)
    else if letter.char = '-' then (some .strip, rest)
    else (none, letter :: rest)
  | [] => (none, [])

/-- Reads the digit that gives the indentation; it is not zero. -/
def readIncrement? : List Letter → Option (Option Nat × List Letter)
  | letter :: rest =>
    if letter.char = '0' then none
    else if letter.char.isDigit then some (some (letter.char.toNat - '0'.toNat), rest)
    else some (none, letter :: rest)
  | [] => some (none, [])

/-- Reads the marks of a block up to the end of its first line: how its end is
treated, and how deep it is indented. The marks come in any order. -/
def readBlockMarks? (text : List Letter) : Option (Chomping × Option Nat × List Letter) := do
  let (early, text) := readChomping text
  let (increment, text) ← readIncrement? text
  let (late, text) := if early.isNone ∧ increment.isSome then readChomping text else (none, text)
  let text := dropComment (dropWhileChar isGap text)
  let chomping := (early.or late).getD .clip
  match text with
  | [] => return (chomping, increment, [])
  | letter :: rest => if isBreak letter.char then return (chomping, increment, rest) else none

/-- Reads the empty lines at the front, with the indentation of the line behind them.
The answer tells the deepest column reached, and the line breaks in reverse. While
the indentation is not known, all spaces belong to it. -/
def readEmptyLines (indent : Option Nat) (deepest : Nat) (breaks : List Char) :
    List Letter → Option (Nat × List Char × List Letter)
  | [] => some (deepest, breaks, [])
  | letter :: rest =>
    let shallow := indent.all (letter.column < ·)
    if letter.char = ' ' ∧ shallow then readEmptyLines indent deepest breaks rest
    else if letter.char = '\t' ∧ shallow then none
    else
      let deepest := max deepest letter.column
      if isBreak letter.char then readEmptyLines indent deepest (letter.char :: breaks) rest
      else some (deepest, breaks, letter :: rest)

/-- Empty lines leave no more than they were read from. -/
theorem readEmptyLines_length {indent : Option Nat} {deepest found : Nat}
    {breaks more : List Char} {text rest : List Letter}
    (h : readEmptyLines indent deepest breaks text = some (found, more, rest)) :
    rest.length ≤ text.length := by
  fun_induction readEmptyLines indent deepest breaks text <;> simp_all <;> omega

/-- The text that the break before a line becomes: between two lines that are not
indented further, a folded block has a space or, where lines are empty, nothing. -/
def lineJoin (literal : Bool) (leading : List Char) (trailing : List Char)
    (afterBlank beforeBlank : Bool) : List Char :=
  if !literal ∧ leading = ['\n'] ∧ !afterBlank ∧ !beforeBlank then
    if trailing = [] then [' '] else trailing
  else leading ++ trailing

/-- Reads the lines of a block. The break before the current line and the empty lines
behind it are held back, as is whether the line before was indented further. -/
def readBlockLines (literal : Bool) (indent : Nat) (reversed : List Char)
    (leading trailing : List Char) (afterBlank : Bool) (text : List Letter) :
    Option (List Char × List Char × List Char × List Letter) :=
  match text with
  | [] => some (reversed, leading, trailing, [])
  | letter :: rest =>
    if letter.column = indent then
      let blank := isGap letter.char
      let joint := lineJoin literal leading trailing afterBlank blank
      let content := letter.char :: takeWhileChar (!isBreak ·) rest
      let behind := dropWhileChar (!isBreak ·) rest
      let reversed := content.reverse ++ (joint.reverse ++ reversed)
      match _cut : behind with
      | [] => some (reversed, [], [], [])
      | ending :: below =>
        match _found : readEmptyLines (some indent) 0 [] below with
        | none => none
        | some (_, breaks, more) =>
          readBlockLines literal indent reversed [ending.char] breaks.reverse blank more
    else some (reversed, leading, trailing, letter :: rest)
termination_by text.length
decreasing_by
  have := readEmptyLines_length ‹_›
  have shorter : behind.length ≤ rest.length :=
    (List.dropWhile_suffix (l := rest) fun letter => !isBreak letter.char).length_le
  simp_all
  omega

/-- Reads a block behind its indicator. `outer` is the indentation around it, which is
negative at the top. -/
def readBlock (literal : Bool) (outer : Int) (text : List Letter) :
    Option (List Char × List Letter) := do
  let (chomping, increment, text) ← readBlockMarks? text
  let known := increment.map fun count => (if 0 ≤ outer then outer.toNat + count else count)
  let (deepest, breaks, text) ← readEmptyLines known 0 [] text
  let indent := known.getD (max (max deepest (outer + 1).toNat) 1)
  let (reversed, leading, trailing, rest) ←
    readBlockLines literal indent [] [] breaks.reverse false text
  let ending := match chomping with
    | .strip => []
    | .clip => leading
    | .keep => leading ++ trailing
  return (reversed.reverse ++ ending, rest)

end NoteTemplate.Yaml
