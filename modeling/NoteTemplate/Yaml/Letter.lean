/-!
# Letters of a YAML text

Where a line starts and how far a character is indented decides what it means in
YAML, so every character is kept together with its line and its column. Line
breaks are unified beforehand: the different ways to end a line become a line
feed, and only the two Unicode separators stay what they are.
-/

namespace NoteTemplate.Yaml

/-- A character at its place; lines and columns count from zero. -/
structure Letter where
  /-- The character. -/
  char : Char
  /-- The line it stands in. -/
  line : Nat
  /-- The number of characters before it in its line. -/
  column : Nat
deriving Repr, DecidableEq

/-- A character that a YAML text can hold: no control character apart from the tab
and the line breaks. -/
def isAllowed (c : Char) : Bool :=
  let n := c.toNat
  n == 0x09 || n == 0x0A || n == 0x0D || (0x20 ≤ n && n ≤ 0x7E) || n == 0x85 ||
    (0xA0 ≤ n && n ≤ 0xFFFD) || 0x10000 ≤ n

/-- The byte order mark. -/
def byteOrderMark : Char := '\uFEFF'

/-- The end of a line once line breaks are unified. -/
def isBreak (c : Char) : Bool := c = '\n' || c = '\u2028' || c = '\u2029'

/-- A space or a tab. -/
def isGap (c : Char) : Bool := c = ' ' || c = '\t'

/-- A character between words: a space, a tab or the end of a line. -/
def isVoid (c : Char) : Bool := isGap c || isBreak c

/-- A character of an anchor, of a directive or of a tag. -/
def isNameCharacter (c : Char) : Bool := c.isAlphanum || c = '_' || c = '-'

/-- A text in which every line ends in a line feed, the two separators apart. -/
def unifyBreaks : List Char → List Char
  | [] => []
  | '\r' :: '\n' :: rest => '\n' :: unifyBreaks rest
  | c :: rest => (if c = '\r' ∨ c = '\u0085' then '\n' else c) :: unifyBreaks rest

/-- Places characters from a line and a column on. -/
def place (line column : Nat) : List Char → List Letter
  | [] => []
  | c :: rest =>
    ⟨c, line, column⟩ ::
      if isBreak c then place (line + 1) 0 rest else place line (column + 1) rest

/-- The letters of a text, if it holds allowed characters only. -/
def letters? (text : List Char) : Option (List Letter) :=
  if text.all isAllowed then some (place 0 0 (unifyBreaks text)) else none

/-- Whether a text starts with a character. -/
def startsWith (c : Char) : List Letter → Bool
  | letter :: _ => letter.char = c
  | [] => false

/-- Whether a text ends, or goes on with a space, a tab or the end of a line. -/
def startsVoid : List Letter → Bool
  | letter :: _ => isVoid letter.char
  | [] => true

/-- Whether a line starts here that separates documents: three times the same
character, and nothing or something void behind it. -/
def startsMark (c : Char) : List Letter → Bool
  | first :: second :: third :: rest =>
    first.column = 0 && first.char = c && second.char = c && third.char = c && startsVoid rest
  | _ => false

/-- Whether a line starts here that separates documents in either way. -/
def startsDocumentMark (text : List Letter) : Bool := startsMark '-' text || startsMark '.' text

/-- Drops letters as long as their characters are in a class. -/
def dropWhileChar (test : Char → Bool) (text : List Letter) : List Letter :=
  text.dropWhile fun letter => test letter.char

/-- The characters at the front that are in a class. -/
def takeWhileChar (test : Char → Bool) (text : List Letter) : List Char :=
  (text.takeWhile fun letter => test letter.char).map Letter.char

/-- Drops a comment, up to the end of its line. -/
def dropComment (text : List Letter) : List Letter :=
  if startsWith '#' text then dropWhileChar (!isBreak ·) text else text

end NoteTemplate.Yaml
