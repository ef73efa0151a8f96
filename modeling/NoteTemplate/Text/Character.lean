import NoteTemplate.Text.Property.Alphabetic
import NoteTemplate.Text.Property.Number
import NoteTemplate.Text.Property.Unseen
import NoteTemplate.Text.Property.WordPart

/-!
# Classes of characters

Letters, numbers and the characters of a word, over all of Unicode, and the
written form of a single character in a message. A character of the ASCII range
is decided without a table.
-/

namespace NoteTemplate.Text

/-- Whether a code point lies in one of the ranges. -/
def inRanges (ranges : Array (Nat × Nat)) (code : Nat) : Bool :=
  ranges.any fun (first, last) => first ≤ code && code ≤ last

/-- A letter or a number. -/
def isAlphanumeric (c : Char) : Bool :=
  if c.toNat < 0x80 then c.isAlphanum
  else inRanges alphabeticRanges c.toNat || inRanges numberRanges c.toNat

/-- A character of a word: alphabetic, a mark, a decimal digit, connector
punctuation such as the underscore, or a join control. -/
def isWordCharacter (c : Char) : Bool :=
  if c.toNat < 0x80 then c.isAlphanum || c == '_'
  else inRanges alphabeticRanges c.toNat || inRanges wordPartRanges c.toNat

/-- The first character of a name: an ASCII letter or the underscore. -/
def isNameStart (c : Char) : Bool := c.isAlpha || c == '_'

/-- A character that a message shows as it stands. -/
def isSeen (c : Char) : Bool :=
  if c.toNat < 0x80 then 0x20 ≤ c.toNat && c.toNat < 0x7F
  else !inRanges unseenRanges c.toNat

/-- The character with a code point, if there is one. -/
def ofCode? (code : Nat) : Option Char :=
  if h : code.isValidChar then some (Char.ofNatAux code h) else none

/-- The escape of a character that has one of its own between single quotes. -/
def namedEscape? (c : Char) : Option String :=
  if c.toNat = 0 then some "\\0"
  else if c = '\t' then some "\\t"
  else if c = '\r' then some "\\r"
  else if c = '\n' then some "\\n"
  else if c = '\'' then some "\\'"
  else if c = '\\' then some "\\\\"
  else none

/-- A character between single quotes: as it stands when it shows, by its named
escape when it has one, and by its code point in hexadecimal otherwise. -/
def shown (c : Char) : String :=
  let body := match namedEscape? c with
    | some escape => escape
    | none =>
      if isSeen c then c.toString
      else "\\u\x7b" ++ String.ofList (Nat.toDigits 16 c.toNat) ++ "\x7d"
  "'" ++ body ++ "'"

end NoteTemplate.Text
