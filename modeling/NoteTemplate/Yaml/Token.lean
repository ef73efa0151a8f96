import NoteTemplate.Yaml.Scalar

/-!
# Tokens of a YAML text

A scanner reads letters from left to right. In block style the indentation opens and
closes collections, so the scanner keeps the indentations that surround the current
place. A key is recognised only by the colon behind it: where one may have started
is remembered, and its token is inserted when the colon comes, unless the line has
ended before. Each level of flow style remembers a place of its own.
-/

namespace NoteTemplate.Yaml

/-- What a stretch of a YAML text means. -/
inductive Token where
  /-- The version that a document asks for. -/
  | version (major minor : Nat)
  /-- A short handle for the start of tags. -/
  | handle (handle start : String)
  /-- The line before a document. -/
  | documentStart
  /-- The line behind a document. -/
  | documentEnd
  /-- The start of a list by indentation. -/
  | blockSequence
  /-- The start of a mapping by indentation. -/
  | blockMapping
  /-- The end of a list or of a mapping by indentation. -/
  | blockEnd
  /-- An opening bracket. -/
  | flowSequence
  /-- A closing bracket. -/
  | flowSequenceEnd
  /-- An opening brace. -/
  | flowMapping
  /-- A closing brace. -/
  | flowMappingEnd
  /-- The hyphen before an item. -/
  | blockEntry
  /-- The comma between items. -/
  | flowEntry
  /-- A key follows. -/
  | key
  /-- The value of a key follows. -/
  | value
  /-- A reference to a named node. -/
  | alias (name : String)
  /-- The name of the node that follows. -/
  | anchor (name : String)
  /-- The tag of the node that follows, as a handle and the rest. -/
  | tag (handle rest : String)
  /-- A scalar; the flag tells a plain one. -/
  | scalar (text : String) (isPlain : Bool)
deriving Repr, DecidableEq

/-- A place where a key may have started. -/
structure PendingKey where
  /-- How many tokens were read before it. -/
  position : Nat
  /-- The line it stands in. -/
  line : Nat
  /-- The column it starts at. -/
  column : Nat
  /-- Nothing but a key may stand there. -/
  required : Bool

/-- A scanner between two tokens. -/
structure Scanner where
  /-- The unread letters. -/
  text : List Letter
  /-- The indentation of the innermost block collection; -1 outside of all. -/
  indent : Int := -1
  /-- The indentations of the collections around it, innermost first. -/
  outer : List Int := []
  /-- Whether a key may start here. -/
  keyAllowed : Bool := true
  /-- Where a key may have started, for every level of flow style, innermost first. The
  last entry is that of block style. -/
  keys : List (Option PendingKey) := [none]
  /-- The tokens read so far, the last one first. -/
  tokens : List Token := []
  /-- How many tokens were read so far. -/
  count : Nat := 0

/-- A key in one line is shorter than this. -/
def keyLimit : Nat := 1024

namespace Scanner

/-- Whether the scanner is inside brackets or braces. -/
def inFlow (scanner : Scanner) : Bool := 1 < scanner.keys.length

/-- Adds a token. -/
def emit (scanner : Scanner) (token : Token) : Scanner :=
  { scanner with tokens := token :: scanner.tokens, count := scanner.count + 1 }

/-- Adds a token and goes on with the given letters. -/
def emitThen (scanner : Scanner) (token : Token) (text : List Letter) : Scanner :=
  { scanner.emit token with text := text }

/-- Inserts tokens before the one at a position. -/
def insertAt (scanner : Scanner) (position : Nat) (tokens : List Token) : Scanner :=
  let behind := scanner.count - position
  { scanner with
    tokens := scanner.tokens.take behind ++ tokens.reverse ++ scanner.tokens.drop behind
    count := scanner.count + tokens.length }

/-- How many block collections a column closes, and the indentation that is left. -/
def closedBy (column indent : Int) : List Int → Nat × Int × List Int
  | [] => (0, indent, [])
  | outer :: rest =>
    if column < indent then
      let (count, left, more) := closedBy column outer rest
      (count + 1, left, more)
    else (0, indent, outer :: rest)

/-- Closes the block collections that are indented deeper than a column. -/
def unroll (scanner : Scanner) (column : Int) : Scanner :=
  if scanner.inFlow then scanner
  else
    let (count, indent, outer) := closedBy column scanner.indent scanner.outer
    { scanner with
      indent := indent
      outer := outer
      tokens := List.replicate count .blockEnd ++ scanner.tokens
      count := scanner.count + count }

/-- Opens a block collection at a column, unless one is open there, with its token
before the one at a position. -/
def roll (scanner : Scanner) (column : Nat) (token : Token) (position : Nat) : Scanner :=
  if scanner.inFlow ∨ (column : Int) ≤ scanner.indent then scanner
  else
    { scanner.insertAt position [token] with
      outer := scanner.indent :: scanner.outer, indent := column }

/-- Forgets where a key may have started; fails if there had to be one. -/
def forgetKey? (scanner : Scanner) : Option Scanner :=
  match scanner.keys with
  | some pending :: rest =>
    if pending.required then none else some { scanner with keys := none :: rest }
  | _ => some scanner

/-- Remembers that a key may start at a letter. -/
def rememberKey? (scanner : Scanner) (letter : Letter) : Option Scanner :=
  if scanner.keyAllowed then do
    let scanner ← scanner.forgetKey?
    let pending : PendingKey :=
      { position := scanner.count
        line := letter.line
        column := letter.column
        required := !scanner.inFlow && scanner.indent = letter.column }
    return { scanner with keys := some pending :: scanner.keys.drop 1 }
  else some scanner

/-- Whether a key cannot reach as far as a letter. -/
def PendingKey.isStale (pending : PendingKey) (letter : Letter) : Bool :=
  pending.line < letter.line || pending.column + keyLimit < letter.column

/-- Forgets the places that are too far from a letter; fails if one of them had to be a
key. -/
def forgetStale? (scanner : Scanner) (letter : Letter) : Option Scanner := do
  let keys ← scanner.keys.mapM fun
    | some pending =>
      if PendingKey.isStale pending letter then (if pending.required then none else some none)
      else some (some pending)
    | none => some none
  return { scanner with keys := keys }

/-- Drops spaces, comments and line ends before a token. The flag tells whether a key may
start there; in block style it may behind a line end, and a tab at the start of a line
is not dropped. -/
def skip (inFlow inComment keyAllowed : Bool) : List Letter → Bool × List Letter
  | [] => (keyAllowed, [])
  | letter :: rest =>
    let c := letter.char
    if isBreak c then skip inFlow false (keyAllowed || !inFlow) rest
    else if inComment then skip inFlow true keyAllowed rest
    else if c = ' ' ∨ (c = '\t' ∧ (inFlow ∨ !keyAllowed)) then skip inFlow false keyAllowed rest
    else if c = '#' then skip inFlow true keyAllowed rest
    else (keyAllowed, letter :: rest)

/-- Reads a number of at most nine digits. -/
def readVersionNumber? (text : List Letter) : Option (Nat × List Letter) :=
  let digits := takeWhileChar Char.isDigit text
  if digits.isEmpty ∨ 9 < digits.length then none
  else some (digits.foldl (fun value c => value * 10 + (c.toNat - '0'.toNat)) 0,
    dropWhileChar Char.isDigit text)

/-- Reads the handle of a tag: an exclamation mark, or a word between two of them. What
stands behind the first mark without a second one is part of the tag. -/
def readHandle? (text : List Letter) : Option (List Char × List Letter) :=
  match text with
  | mark :: rest =>
    if mark.char = '!' then
      let word := takeWhileChar isNameCharacter rest
      match dropWhileChar isNameCharacter rest with
      | close :: more =>
        if close.char = '!' then some ('!' :: word ++ ['!'], more)
        else some ('!' :: word, close :: more)
      | [] => some ('!' :: word, [])
    else none
  | [] => none

/-- A character of a tag; between angle brackets there may be more. -/
def isTagCharacter (isVerbatim : Bool) (c : Char) : Bool :=
  isNameCharacter c || c ∈ ";/?:@&=+$.%!~*'()".toList || (isVerbatim && c ∈ ",[]".toList)

/-- Reads an octet that is written as a percent sign and two digits. -/
def readOctet? : List Char → Option (Nat × List Char)
  | '%' :: high :: low :: rest => do
    return ((← Number.hexDigit? high) * 16 + (← Number.hexDigit? low), rest)
  | _ => none

/-- How many octets follow the first one of a character, and the bits it holds. -/
def leadingOctet? (octet : Nat) : Option (Nat × Nat) :=
  if octet < 0x80 then some (0, octet)
  else if 0xC0 ≤ octet ∧ octet < 0xE0 then some (1, octet - 0xC0)
  else if 0xE0 ≤ octet ∧ octet < 0xF0 then some (2, octet - 0xE0)
  else if 0xF0 ≤ octet ∧ octet < 0xF8 then some (3, octet - 0xF0)
  else none

/-- Reads the octets behind the first one of a character. -/
def readOctets? (count code : Nat) (text : List Char) : Option (Nat × List Char) :=
  match count with
  | 0 => some (code, text)
  | count + 1 => do
    let (octet, rest) ← readOctet? text
    if 0x80 ≤ octet ∧ octet < 0xC0 then readOctets? count (code * 64 + (octet - 0x80)) rest
    else none

/-- Replaces the octets that are written in hexadecimal by the characters they encode. -/
def unescapeTag? (fuel : Nat) (text : List Char) : Option (List Char) :=
  match fuel, text with
  | _, [] => some []
  | 0, _ => none
  | fuel + 1, '%' :: rest => do
    let (octet, behind) ← readOctet? ('%' :: rest)
    let (count, bits) ← leadingOctet? octet
    let (code, behind) ← readOctets? count bits behind
    return ((Text.ofCode? code).getD '\uFFFD') :: (← unescapeTag? fuel behind)
  | fuel + 1, c :: rest => do return c :: (← unescapeTag? fuel rest)

/-- Reads the characters of a tag. -/
def readTagText? (isVerbatim : Bool) (text : List Letter) : Option (List Char × List Letter) := do
  let raw := takeWhileChar (isTagCharacter isVerbatim) text
  return (← unescapeTag? raw.length raw, dropWhileChar (isTagCharacter isVerbatim) text)

/-- Reads a tag: its handle and the rest of it. -/
def readTag? (inFlow : Bool) (text : List Letter) : Option (Token × List Letter) := do
  let (handle, rest, left) ←
    match text with
    | _ :: open_ :: inner =>
      if open_.char = '<' then do
        let (name, left) ← readTagText? true inner
        guard (!name.isEmpty && startsWith '>' left)
        pure ([], name, left.drop 1)
      else readShort
    | _ => readShort
  guard (startsVoid left || (inFlow && startsWith ',' left))
  return (.tag (String.ofList handle) (String.ofList rest), left)
where
  /-- Reads a tag that is not between angle brackets. -/
  readShort : Option (List Char × List Char × List Letter) := do
    let (handle, left) ← readHandle? text
    let (more, left) ← readTagText? false left
    if 1 < handle.length ∧ handle.getLast? = some '!' then
      if more.isEmpty then none else return (handle, more, left)
    else
      let name := handle.drop 1 ++ more
      if name.isEmpty then return ([], ['!'], left) else return (['!'], name, left)

/-- Reads the line of a directive behind its percent sign. -/
def readDirective? (text : List Letter) : Option (Token × List Letter) := do
  let name := String.ofList (takeWhileChar isNameCharacter text)
  let left := dropWhileChar isNameCharacter text
  guard (startsVoid left)
  let left := dropWhileChar isGap left
  let (token, left) ←
    if name = "YAML" then do
      let (major, left) ← readVersionNumber? left
      guard (startsWith '.' left)
      let (minor, left) ← readVersionNumber? (left.drop 1)
      pure (Token.version major minor, left)
    else if name = "TAG" then do
      let (handle, left) ← readHandle? left
      guard (handle.length = 1 || handle.getLast? = some '!')
      guard (left.head?.any fun next => isGap next.char)
      let (start, left) ← readTagText? true (dropWhileChar isGap left)
      guard (!start.isEmpty && startsVoid left)
      pure (Token.handle (String.ofList handle) (String.ofList start), left)
    else none
  match dropComment (dropWhileChar isGap left) with
  | [] => return (token, [])
  | ending :: rest => if isBreak ending.char then return (token, rest) else none

/-- Reads the name of an anchor or of an alias. -/
def readName? (text : List Letter) : Option (String × List Letter) :=
  let name := takeWhileChar isNameCharacter text
  let left := dropWhileChar isNameCharacter text
  let ends := startsVoid left ||
    left.head?.any fun next => next.char ∈ "?:,]\x7d%@\x60".toList
  if !name.isEmpty ∧ ends then some (String.ofList name, left) else none

/-- Adds a token that stands for an indicator of one letter. -/
def indicator (scanner : Scanner) (token : Token) : Scanner :=
  scanner.emitThen token (scanner.text.drop 1)

/-- Reads a bracket or a brace that opens a collection. -/
def openFlow? (scanner : Scanner) (letter : Letter) (token : Token) : Option Scanner := do
  let scanner ← scanner.rememberKey? letter
  return { scanner.indicator token with keys := none :: scanner.keys, keyAllowed := true }

/-- Reads a bracket or a brace that closes a collection. -/
def closeFlow? (scanner : Scanner) (token : Token) : Option Scanner := do
  let scanner ← scanner.forgetKey?
  let keys := match scanner.keys with
    | _ :: level :: rest => level :: rest
    | keys => keys
  return { scanner.indicator token with keys := keys, keyAllowed := false }

/-- Reads the hyphen before an item. -/
def readEntry? (scanner : Scanner) (letter : Letter) : Option Scanner := do
  guard (scanner.inFlow || scanner.keyAllowed)
  let scanner ← (scanner.roll letter.column .blockSequence scanner.count).forgetKey?
  return { scanner.indicator .blockEntry with keyAllowed := true }

/-- Reads the question mark before a key. -/
def readKey? (scanner : Scanner) (letter : Letter) : Option Scanner := do
  guard (scanner.inFlow || scanner.keyAllowed)
  let scanner ← (scanner.roll letter.column .blockMapping scanner.count).forgetKey?
  return { scanner.indicator .key with keyAllowed := !scanner.inFlow }

/-- Reads the colon behind a key. -/
def readValue? (scanner : Scanner) (letter : Letter) : Option Scanner :=
  match scanner.keys with
  | some pending :: rest =>
    let scanner := (scanner.insertAt pending.position [.key]).roll pending.column .blockMapping
      pending.position
    some { scanner.indicator .value with keys := none :: rest, keyAllowed := false }
  | _ =>
    if scanner.inFlow ∨ scanner.keyAllowed then
      let scanner := scanner.roll letter.column .blockMapping scanner.count
      some { scanner.indicator .value with keyAllowed := !scanner.inFlow }
    else none

/-- Reads a token that a key may start with. -/
def readContent? (scanner : Scanner) (letter : Letter)
    (read : List Letter → Option (Token × List Letter)) : Option Scanner := do
  let scanner ← scanner.rememberKey? letter
  let (token, left) ← read scanner.text
  return { scanner.emitThen token left with keyAllowed := false }

/-- Reads a literal or a folded block. -/
def readBlockScalar? (scanner : Scanner) (isLiteral : Bool) : Option Scanner := do
  let scanner ← scanner.forgetKey?
  let (text, left) ← readBlock isLiteral scanner.indent (scanner.text.drop 1)
  return { scanner.emitThen (.scalar (String.ofList text) false) left with keyAllowed := true }

/-- Reads a plain scalar. A key may start behind it when it ends with its line. -/
def readPlainScalar? (scanner : Scanner) (letter : Letter) : Option Scanner := do
  let scanner ← scanner.rememberKey? letter
  let (text, broken, left) ← readPlain scanner.inFlow scanner.indent [] .empty scanner.text
  return { scanner.emitThen (.scalar (String.ofList text) true) left with keyAllowed := broken }

/-- Reads a line that separates documents. -/
def readMark? (scanner : Scanner) (token : Token) : Option Scanner := do
  let scanner ← (scanner.unroll (-1)).forgetKey?
  return { scanner.emitThen token (scanner.text.drop 3) with keyAllowed := false }

/-- Whether a letter starts a plain scalar. Most indicators do not, and a hyphen, a
question mark or a colon does so only in front of text. -/
def startsPlain (inFlow : Bool) (c : Char) (rest : List Letter) : Bool :=
  if c = '-' then !(rest.head?.any fun next => isGap next.char)
  else if c = '?' ∨ c = ':' then !inFlow && !startsVoid rest
  else !isVoid c && c ∉ ",[]\x7b\x7d#&*!|>'\"%@\x60".toList

/-- Reads the token that starts with a letter. -/
def readToken? (scanner : Scanner) (letter : Letter) (rest : List Letter) : Option Scanner :=
  let c := letter.char
  let inFlow := scanner.inFlow
  if letter.column = 0 ∧ c = '%' then do
    let scanner ← (scanner.unroll (-1)).forgetKey?
    let (token, left) ← readDirective? rest
    return { scanner.emitThen token left with keyAllowed := false }
  else if startsMark '-' scanner.text then scanner.readMark? .documentStart
  else if startsMark '.' scanner.text then scanner.readMark? .documentEnd
  else if c = '[' then scanner.openFlow? letter .flowSequence
  else if c = '{' then scanner.openFlow? letter .flowMapping
  else if c = ']' then scanner.closeFlow? .flowSequenceEnd
  else if c = '}' then scanner.closeFlow? .flowMappingEnd
  else if c = ',' then do
    let scanner ← scanner.forgetKey?
    return { scanner.indicator .flowEntry with keyAllowed := true }
  else if c = '-' ∧ startsVoid rest then scanner.readEntry? letter
  else if c = '?' ∧ (inFlow ∨ startsVoid rest) then scanner.readKey? letter
  else if c = ':' ∧ (inFlow ∨ startsVoid rest) then scanner.readValue? letter
  else if c = '*' then
    scanner.readContent? letter fun text =>
      (readName? (text.drop 1)).map fun (name, left) => (.alias name, left)
  else if c = '&' then
    scanner.readContent? letter fun text =>
      (readName? (text.drop 1)).map fun (name, left) => (.anchor name, left)
  else if c = '!' then scanner.readContent? letter (readTag? inFlow)
  else if c = '|' ∧ !inFlow then scanner.readBlockScalar? true
  else if c = '>' ∧ !inFlow then scanner.readBlockScalar? false
  else if c = '\'' then
    scanner.readContent? letter fun text =>
      (readSingle [] .empty (text.drop 1)).map fun (value, left) =>
        (.scalar (String.ofList value) false, left)
  else if c = '"' then
    scanner.readContent? letter fun text =>
      (readDouble [] .empty (text.drop 1)).map fun (value, left) =>
        (.scalar (String.ofList value) false, left)
  else if startsPlain inFlow c rest then scanner.readPlainScalar? letter
  else none

/-- Ends the scanning: every block collection is closed. -/
def finish? (scanner : Scanner) : Option (List Token) := do
  let ended ← scanner.forgetKey?
  return (ended.unroll (-1)).tokens.reverse

/-- Reads the tokens up to the end. Every token takes at least one letter. -/
def run (steps : Nat) (scanner : Scanner) : Option (List Token) :=
  let (keyAllowed, text) := skip scanner.inFlow false scanner.keyAllowed scanner.text
  let scanner := { scanner with keyAllowed := keyAllowed, text := text }
  match text, steps with
  | [], _ => scanner.finish?
  | _ :: _, 0 => none
  | letter :: rest, steps + 1 => do
    let scanner ← scanner.forgetStale? letter
    let scanner ← (scanner.unroll letter.column).readToken? letter rest
    run steps scanner

end Scanner

/-- The tokens of a text, if it has no fault. A byte order mark at the start is passed
over. -/
def tokens? (text : List Char) : Option (List Token) := do
  let letters ← letters? text
  let letters := if startsWith byteOrderMark letters then letters.drop 1 else letters
  Scanner.run letters.length { text := letters }

end NoteTemplate.Yaml
