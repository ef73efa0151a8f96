import NoteTemplate.Json.Writer
import NoteTemplate.Yaml.Plain

/-!
# Writing YAML

`Yaml.write` writes a JSON value in block style, one field or item a line. The items of
a list in a mapping are not indented. A text is written plain when it then reads as
itself, as a block when it has several lines, and between quotes otherwise; characters
that do not show are escaped, which takes double quotes.
-/

namespace NoteTemplate.Yaml

/-- A character that ends a line in some encoding. -/
def isAnyBreak (c : Char) : Bool :=
  c = '\n' || c = '\r' || c = '\u0085' || c = '\u2028' || c = '\u2029'

/-- A space, a tab, or a character that ends a line or a text. -/
def isAnyVoid (c : Char) : Bool := c = ' ' || c = '\t' || c = '\x00' || isAnyBreak c

/-- A character that is written as it stands. -/
def isPrintable (c : Char) : Bool :=
  let n := c.toNat
  n == 0x0A || (0x20 ≤ n && n ≤ 0x7E) || (0xA0 ≤ n && n ≤ 0xFFFD && n != 0xFEFF) || 0x10000 ≤ n

/-- A character that cannot start a plain scalar. -/
def isLeadingIndicator (c : Char) : Bool :=
  c ∈ "#,[]\x7b\x7d&*!|>'\"%@\x60".toList

/-- Whether a text in a line of its own would read as something else: an indicator at the
start, a colon before a gap, or a comment. The character before the rest is given. -/
def hasIndicator (before : Char) : List Char → Bool
  | [] => false
  | c :: rest =>
    (c = ':' && rest.head?.all isAnyVoid) || (c = '#' && isAnyVoid before) || hasIndicator c rest

/-- Whether a text would not read as a plain scalar because of its characters. -/
def startsIndicator : List Char → Bool
  | [] => false
  | c :: rest =>
    isLeadingIndicator c || ((c = '-' || c = '?') && rest.head?.all isAnyVoid) ||
      "---".toList.isPrefixOf (c :: rest) || "...".toList.isPrefixOf (c :: rest)

/-- Whether somewhere a character of the first class stands before one of the second. -/
def hasPair (first second : Char → Bool) : List Char → Bool
  | c :: d :: rest => (first c && second d) || hasPair first second (d :: rest)
  | _ => false

/-- A space. -/
def isSpace (c : Char) : Bool := c = ' '

/-- Whether every character of a text is written as it stands, and no line ends in a
space: only then can a text do without double quotes. -/
def isClear (text : List Char) : Bool := text.all isPrintable && !hasPair isSpace isAnyBreak text

/-- Whether a text is one line without spaces at its ends that no indicator disturbs. -/
def allowsPlain (text : List Char) : Bool :=
  isClear text && !text.any isAnyBreak && !text.head?.any isSpace && !text.getLast?.any isSpace &&
    !startsIndicator text && !hasIndicator ' ' text

/-- Whether a text can stand between single quotes. -/
def allowsSingle (text : List Char) : Bool := isClear text && !hasPair isAnyBreak isSpace text

/-- Whether a text can be written as a block. -/
def allowsBlock (text : List Char) : Bool :=
  isClear text && !text.isEmpty && !text.getLast?.any isSpace

/-- How a text is written. -/
inductive ScalarStyle where
  /-- As it stands. -/
  | plain
  /-- Between single quotes. -/
  | single
  /-- Between double quotes. -/
  | double
  /-- Line by line below an indicator. -/
  | block
deriving Repr, DecidableEq

/-- Whether a plain scalar of this text reads as a text and does not look like a number. -/
def readsAsText (text : List Char) : Bool :=
  match plainValue? text with
  | some (.string _) => !hasIdleZero text
  | _ => false

/-- How a text is written. -/
def ScalarStyle.of (text : List Char) : ScalarStyle :=
  if '\n' ∈ text then if allowsBlock text then .block else .double
  else if readsAsText text ∧ allowsPlain text then .plain
  else if allowsSingle text then .single
  else .double

/-- The letter that stands for a character behind a backslash. -/
def escapeLetter? (c : Char) : Option Char :=
  match c.toNat with
  | 0x00 => some '0'
  | 0x07 => some 'a'
  | 0x08 => some 'b'
  | 0x09 => some 't'
  | 0x0A => some 'n'
  | 0x0B => some 'v'
  | 0x0C => some 'f'
  | 0x0D => some 'r'
  | 0x1B => some 'e'
  | 0x22 => some '"'
  | 0x5C => some '\\'
  | 0x85 => some 'N'
  | 0xA0 => some '_'
  | 0x2028 => some 'L'
  | 0x2029 => some 'P'
  | _ => none

/-- A number in hexadecimal with the given number of digits. -/
def hexText (width value : Nat) : List Char :=
  let digits := (Nat.toDigits 16 value).map Char.toUpper
  List.replicate (width - digits.length) '0' ++ digits

/-- A character between double quotes. -/
def doubleQuoted (c : Char) : List Char :=
  if isPrintable c ∧ !isAnyBreak c ∧ c ≠ '"' ∧ c ≠ '\\' then [c]
  else
    match escapeLetter? c with
    | some letter => ['\\', letter]
    | none =>
      let n := c.toNat
      if n ≤ 0xFF then '\\' :: 'x' :: hexText 2 n
      else if n ≤ 0xFFFF then '\\' :: 'u' :: hexText 4 n
      else '\\' :: 'U' :: hexText 8 n

/-- Spaces. -/
def spaces (count : Nat) : List Char := List.replicate count ' '

/-- The lines of a text below an indicator, each behind spaces unless it is empty. The
flag tells whether a line starts. -/
def blockLines (indent : Nat) (isStart : Bool) : List Char → List Char
  | [] => []
  | c :: rest =>
    if isAnyBreak c then c :: blockLines indent true rest
    else (if isStart then spaces indent else []) ++ c :: blockLines indent false rest

/-- A text between single quotes, where a quote is written twice. A line after a break is
indented. -/
def singleLines (indent : Nat) (isStart : Bool) : List Char → List Char
  | [] => if isStart then spaces indent else []
  | c :: rest =>
    if isAnyBreak c then c :: singleLines indent true rest
    else
      (if isStart then spaces indent else []) ++
        (if c = '\'' then ['\'', '\''] else [c]) ++ singleLines indent false rest

/-- The mark for the end of a block: whether it has no line break, or more than one. -/
def chompingMark (text : List Char) : List Char :=
  match text.reverse with
  | last :: [] => if isAnyBreak last then ['+'] else ['-']
  | last :: other :: _ =>
    if !isAnyBreak last then ['-'] else if isAnyBreak other then ['+'] else []
  | [] => ['-']

/-- Every level of nesting is indented by this many spaces. -/
def indentStep : Nat := 2

/-- The marks of a block: its indentation where its first line does not show it, and its
end. -/
def blockMarks (text : List Char) : List Char :=
  (if text.head?.any fun c => isSpace c || isAnyBreak c then Number.digits indentStep else []) ++
    chompingMark text

/-- Writes a text whose further lines are indented. -/
def scalarText (indent : Nat) (text : List Char) : List Char :=
  match ScalarStyle.of text with
  | .plain => text
  | .single => '\'' :: singleLines indent false text ++ ['\'']
  | .double => '"' :: text.flatMap doubleQuoted ++ ['"']
  | .block => '|' :: blockMarks text ++ '\n' :: blockLines indent true text

/-- A text with the break that ends its last line, unless it brings one along. -/
def ended (written : List Char) : List Char :=
  if written.getLast?.any isAnyBreak then written else written ++ ['\n']

/-- A key of at most this many bytes can stand in one line with its value. -/
def shortKeyLimit : Nat := 128

/-- Whether a key can stand in one line with its value. -/
def isShortKey (key : String) : Bool :=
  !key.toList.any isAnyBreak && key.utf8ByteSize ≤ shortKeyLimit

/-- Doubles are written as in JSON but without the sign of a positive exponent. -/
def numberStyle : Number.Style := { Json.numberStyle with positiveExponent := [] }

/-- Writes a double, an infinity or no number. -/
def floatText (value : Float) : List Char :=
  match Number.Binary64.ofFloat value with
  | .finite negative mantissa exponent => numberStyle.finite negative mantissa exponent
  | .infinite false => ".inf".toList
  | .infinite true => "-.inf".toList
  | .nan => ".nan".toList

/-- Where a value stands. -/
inductive Position where
  /-- Behind a short key; the value goes on in the line or in the next one. -/
  | field
  /-- Behind a hyphen or behind the colon of a long key; the value starts in the line. -/
  | item
deriving Repr, DecidableEq

mutual

/-- Writes a value with the break that ends its last line. The indentation is that of the
collection around it. -/
def valueText (indent : Nat) (position : Position) : Json → List Char
  | .null => " null\n".toList
  | .bool value => if value then " true\n".toList else " false\n".toList
  | .int value => ' ' :: Number.integerText value ++ ['\n']
  | .float value => ' ' :: floatText value ++ ['\n']
  | .string text => ' ' :: ended (scalarText (indent + indentStep) text.toList)
  | .array [] => " []\n".toList
  | .object [] => [' ', '{', '}', '\n']
  | .array (item :: rest) =>
    match position with
    | .field => '\n' :: itemsText indent true (item :: rest)
    | .item => ' ' :: itemsText (indent + indentStep) false (item :: rest)
  | .object (field :: rest) =>
    match position with
    | .field => '\n' :: fieldsText (indent + indentStep) true (field :: rest)
    | .item => ' ' :: fieldsText (indent + indentStep) false (field :: rest)

/-- Writes the items of a list; the flag tells whether the first one is indented. -/
def itemsText (indent : Nat) (isIndented : Bool) : List Json → List Char
  | [] => []
  | item :: rest =>
    (if isIndented then spaces indent else []) ++
      '-' :: valueText indent .item item ++ itemsText indent true rest

/-- Writes the fields of a mapping; the flag tells whether the first one is indented. -/
def fieldsText (indent : Nat) (isIndented : Bool) : List (String × Json) → List Char
  | [] => []
  | (key, value) :: rest =>
    let margin := if isIndented then spaces indent else []
    let written :=
      if isShortKey key then
        scalarText (indent + indentStep) key.toList ++ ':' :: valueText indent .field value
      else
        '?' :: ' ' :: ended (scalarText (indent + indentStep) key.toList) ++
          spaces indent ++ ':' :: valueText indent .item value
    margin ++ written ++ fieldsText indent true rest

end

/-- Writes a mapping that is not empty. -/
def write (fields : Fields Json) : String := String.ofList (fieldsText 0 true fields)

end NoteTemplate.Yaml
