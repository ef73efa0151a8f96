/-!
# Letter case of keywords

Keywords of the tool are ASCII words that are matched without regard to case. Of
the letters outside ASCII only the Kelvin sign has a single ASCII letter as its
lower case, so folding it and the ASCII capitals decides every match.
-/

namespace NoteTemplate.Text

/-- The lower case of a letter as far as an ASCII keyword can tell. -/
def foldLetter (c : Char) : Char := if c = '\u212A' then 'k' else c.toLower

/-- A text in the lower case that keywords are compared in. -/
def foldedCase (text : String) : String := String.ofList (text.toList.map foldLetter)

/-- A text with its ASCII capitals in lower case. -/
def lowerAscii (text : List Char) : List Char := text.map Char.toLower

end NoteTemplate.Text
