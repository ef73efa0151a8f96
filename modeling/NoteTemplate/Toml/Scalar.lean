import NoteTemplate.Calendar.Moment
import NoteTemplate.Text.Character
import NoteTemplate.Text.Pieces
import NoteTemplate.Toml.Basic

/-!
# Reading plain values of configuration files

A text stands between quotes of one of two kinds. Between double quotes a backslash
starts an escape; between single quotes all characters stand for themselves. Three quotes
allow line breaks. All other plain values are words: truth values, numbers and times.
-/

namespace NoteTemplate.Toml

/-- White space within a line. -/
def isGap (c : Char) : Bool := c = ' ' || c = '\t'

/-- A character that can stand for itself in texts and comments. -/
def isPlain (c : Char) : Bool := c = '\t' || (0x20 ≤ c.toNat && c.toNat ≠ 0x7F)

/-- The character that a backslash and a letter stand for. -/
def escape? : Char → Option Char
  | 'b' => some '\x08'
  | 't' => some '\t'
  | 'n' => some '\n'
  | 'f' => some '\x0c'
  | 'r' => some '\r'
  | 'e' => some '\x1b'
  | '"' => some '"'
  | '\\' => some '\\'
  | _ => none

/-- How many hexadecimal digits follow a backslash and a letter. -/
def escapeLength? : Char → Option Nat
  | 'x' => some 2
  | 'u' => some 4
  | 'U' => some 8
  | _ => none

/-- Reads an escape behind its backslash. -/
def readEscape : List Char → Option (Char × List Char)
  | [] => none
  | letter :: rest =>
    match escapeLength? letter with
    | none => (escape? letter).map fun c => (c, rest)
    | some count =>
      let digits := rest.take count
      if digits.length = count then
        ((Number.ofHex? digits).bind Text.ofCode?).map fun c => (c, rest.drop count)
      else none

/-- An escape leaves less than it was read from. -/
theorem readEscape_length {text rest : List Char} {c : Char}
    (h : readEscape text = some (c, rest)) : rest.length < text.length := by
  unfold readEscape at h
  split at h
  · simp at h
  · split at h
    · rw [Option.map_eq_some_iff] at h
      obtain ⟨_, _, same⟩ := h
      simp at same
      simp [← same.2]
    · dsimp only at h
      split at h
      · rw [Option.map_eq_some_iff] at h
        obtain ⟨_, _, same⟩ := h
        have behind := congrArg (List.length ∘ Prod.snd) same
        simp only [Function.comp_apply, List.length_drop] at behind
        simp only [List.length_cons]
        omega
      · simp at h

/-- Reads a text behind a double quote. -/
def readDouble (reversed : List Char) (text : List Char) : Option (List Char × List Char) :=
  match text with
  | [] => none
  | '"' :: rest => some (reversed.reverse, rest)
  | '\\' :: rest =>
    match _found : readEscape rest with
    | some (c, rest) => readDouble (c :: reversed) rest
    | none => none
  | c :: rest => if isPlain c then readDouble (c :: reversed) rest else none
termination_by text.length
decreasing_by
  all_goals simp_wf
  all_goals try have := readEscape_length ‹_›
  all_goals omega

/-- Reads a text behind a single quote. -/
def readSingle (reversed : List Char) : List Char → Option (List Char × List Char)
  | [] => none
  | '\'' :: rest => some (reversed.reverse, rest)
  | c :: rest => if isPlain c then readSingle (c :: reversed) rest else none

/-- A text without the line break at its front. -/
def dropBreak : List Char → List Char
  | '\n' :: rest | '\r' :: '\n' :: rest => rest
  | text => text

/-- Whether a text starts with a line break. -/
def startsWithBreak : List Char → Bool
  | '\n' :: _ | '\r' :: '\n' :: _ => true
  | _ => false

/-- White space and line breaks are dropped from the front. -/
def dropSpace (text : List Char) : List Char :=
  match text with
  | '\r' :: '\n' :: rest => dropSpace rest
  | c :: rest => if isGap c ∨ c = '\n' then dropSpace rest else c :: rest
  | [] => []

/-- What is left is no longer than the text was. -/
theorem dropSpace_length (text : List Char) : (dropSpace text).length ≤ text.length := by
  fun_induction dropSpace text <;> simp_all <;> omega

/-- The text behind a backslash at the end of a line, from the next text on. -/
def continued? (text : List Char) : Option (List Char) :=
  if startsWithBreak (text.dropWhile isGap) then some (dropSpace text) else none

/-- What a continued line leaves is no longer than the text was. -/
theorem continued?_length {text rest : List Char} (h : continued? text = some rest) :
    rest.length ≤ text.length := by
  unfold continued? at h
  split at h
  · simp at h
    exact h ▸ dropSpace_length text
  · simp at h

/-- Ends a text behind three quotes. Up to two more quotes belong to the text. -/
def endLong (quote : Char) (reversed text : List Char) : Option (List Char × List Char) :=
  let more := (text.take 2).takeWhile (· = quote)
  some ((more ++ reversed).reverse, text.drop more.length)

/-- Reads a text behind three double quotes. -/
def readLongDouble (reversed : List Char) (text : List Char) : Option (List Char × List Char) :=
  match text with
  | [] => none
  | '"' :: '"' :: '"' :: rest => endLong '"' reversed rest
  | '\\' :: rest =>
    match _continued : continued? rest with
    | some rest => readLongDouble reversed rest
    | none =>
      match _found : readEscape rest with
      | some (c, rest) => readLongDouble (c :: reversed) rest
      | none => none
  | '\r' :: '\n' :: rest => readLongDouble ('\n' :: reversed) rest
  | c :: rest =>
    if c = '\n' ∨ isPlain c then readLongDouble (c :: reversed) rest else none
termination_by text.length
decreasing_by
  all_goals simp_wf
  all_goals try have := readEscape_length ‹_›
  all_goals try have := continued?_length ‹_›
  all_goals omega

/-- Reads a text behind three single quotes. -/
def readLongSingle (reversed : List Char) : List Char → Option (List Char × List Char)
  | [] => none
  | '\'' :: '\'' :: '\'' :: rest => endLong '\'' reversed rest
  | '\r' :: '\n' :: rest => readLongSingle ('\n' :: reversed) rest
  | c :: rest => if c = '\n' ∨ isPlain c then readLongSingle (c :: reversed) rest else none

/-- A text as a value. -/
def asString (found : Option (List Char × List Char)) : Option (Toml × List Char) :=
  found.map fun (text, rest) => (.string (String.ofList text), rest)

/-- Whether a text consists of digits with single underscores between them. -/
def isGrouped (isDigit : Char → Bool) (text : List Char) : Bool :=
  (Text.splitOn '_' text).all fun group => !group.isEmpty && group.all isDigit

/-- A text without its underscores. -/
def ungrouped (text : List Char) : List Char := text.filter (· ≠ '_')

/-- Whether a text is a whole number in base ten without a sign. Only zero starts with a
zero. -/
def isWhole (text : List Char) : Bool :=
  isGrouped Char.isDigit text && (text.head? ≠ some '0' || text = ['0'])

/-- The base that the front of a number gives, with the digits behind it. -/
def splitBase? : List Char → Option (Nat × List Char)
  | '0' :: 'x' :: digits => some (16, digits)
  | '0' :: 'o' :: digits => some (8, digits)
  | '0' :: 'b' :: digits => some (2, digits)
  | _ => none

/-- The whole numbers of at most 128 bits. -/
def isInRange (value : Int) : Bool :=
  -(Number.twoTo 127 : Int) ≤ value && value < (Number.twoTo 128 : Int)

/-- Reads a whole number. -/
def integer? (text : List Char) : Option Int :=
  let value := match splitBase? text with
    | some (base, digits) =>
      if isGrouped (fun c => (Number.hexDigit? c).any (· < base)) digits then
        (Number.inBase? base (ungrouped digits)).map Int.ofNat
      else none
    | none =>
      let (_, digits) := Number.splitSign text
      if isWhole digits then Number.integer? (ungrouped text) else none
  value.filter isInRange

/-- Whether a text is the fraction of a number behind its point. -/
def isFraction (text : List Char) : Bool := isGrouped Char.isDigit text

/-- Whether a text is an exponent behind its letter. -/
def isExponent (text : List Char) : Bool := isGrouped Char.isDigit (Number.splitSign text).2

/-- Whether a text is a whole number and a fraction. -/
def isPointed (text : List Char) : Bool :=
  match Text.cutAt? '.' text with
  | some (whole, fraction) => isWhole whole && isFraction fraction
  | none => false

/-- Whether a text is a number with a fraction or an exponent, or the name of an infinity
or of no number. It has to lie in the range of doubles. -/
def isDecimal (text : List Char) : Bool :=
  let (_, magnitude) := Number.splitSign text
  if magnitude = "inf".toList ∨ magnitude = "nan".toList then true
  else
    let lower := magnitude.map Char.toLower
    let isWellFormed := match Text.cutAt? 'e' lower with
      | some (front, exponent) => (isWhole front || isPointed front) && isExponent exponent
      | none => isPointed lower
    isWellFormed && (Number.finiteDouble? (ungrouped lower)).isSome

/-- Reads a date from the front of a text. -/
def takeDay? (text : List Char) : Option (List Char) := do
  let (year, text) ← Calendar.takeDigits? 4 text
  let text ← Calendar.takeOne? ['-'] text
  let (month, text) ← Calendar.takeDigits? 2 text
  let text ← Calendar.takeOne? ['-'] text
  let (day, text) ← Calendar.takeDigits? 2 text
  guard (Calendar.Date.of? year month day).isSome
  return text

/-- Reads seconds from the front of a text; there may be none. -/
def takeSeconds? : List Char → Option (Nat × List Char)
  | ':' :: text => do
    let (second, text) ← Calendar.takeDigits? 2 text
    let (_, text) ← Calendar.takeFraction? text
    return (second, text)
  | text => some (0, text)

/-- Reads a time of day from the front of a text. -/
def takeClock? (text : List Char) : Option (List Char) := do
  let (hour, text) ← Calendar.takeDigits? 2 text
  let text ← Calendar.takeOne? [':'] text
  let (minute, text) ← Calendar.takeDigits? 2 text
  let (second, text) ← takeSeconds? text
  guard (Calendar.Clock.of? hour minute second 0).isSome
  return text

/-- Whether a text is an offset from Greenwich or empty. -/
def endsWithOffset (text : List Char) : Bool :=
  match text, Calendar.takeOffset? text with
  | [], _ => true
  | _, some (offset, []) => decide (Calendar.IsOffset offset)
  | _, _ => false

/-- Whether a text is a date, a time of day or both. -/
def isTime (text : List Char) : Bool :=
  match takeDay? text with
  | none => takeClock? text = some []
  | some [] => true
  | some rest => ((Calendar.takeOne? ['T', 't', ' '] rest).bind takeClock?).any endsWithOffset

/-- A character of words. -/
def isWordCharacter (c : Char) : Bool :=
  c.isAlphanum || c = '+' || c = '-' || c = '_' || c = '.' || c = ':'

/-- Separates a word from the text behind it. A date and a time of day behind a space are
one word. -/
def splitWord (text : List Char) : List Char × List Char :=
  let word := text.takeWhile isWordCharacter
  let rest := text.dropWhile isWordCharacter
  match takeDay? word, rest with
  | some [], ' ' :: c :: more =>
    if c.isDigit then
      (word ++ ' ' :: (c :: more).takeWhile isWordCharacter,
        (c :: more).dropWhile isWordCharacter)
    else (word, rest)
  | _, _ => (word, rest)

/-- The value that a word stands for. -/
def ofWord? (word : List Char) : Option Toml :=
  if word = "true".toList then some (.boolean true)
  else if word = "false".toList then some (.boolean false)
  else
    match integer? word with
    | some value => some (.integer value)
    | none =>
      if isDecimal word then some (.decimal (String.ofList word))
      else if isTime word then some (.time (String.ofList word))
      else none

/-- Reads a plain value. -/
def readScalar : List Char → Option (Toml × List Char)
  | '"' :: '"' :: '"' :: rest => asString (readLongDouble [] (dropBreak rest))
  | '"' :: rest => asString (readDouble [] rest)
  | '\'' :: '\'' :: '\'' :: rest => asString (readLongSingle [] (dropBreak rest))
  | '\'' :: rest => asString (readSingle [] rest)
  | text =>
    let (word, rest) := splitWord text
    (ofWord? word).map fun value => (value, rest)

end NoteTemplate.Toml
