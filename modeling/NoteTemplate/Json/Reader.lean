import NoteTemplate.Json.Basic
import NoteTemplate.Number.Numeral

/-!
# Reading JSON

A pushdown reader: the containers that are open lie on a stack, and a state says
what may come next. Every step consumes at least one character, so the reader
ends. A fault carries the line and the column, counted in bytes, where the reader
stood when it noticed.
-/

namespace NoteTemplate

namespace Json

/-- Why a text is not JSON. -/
inductive Fault where
  | endInArray
  | endInObject
  | endInString
  | endInValue
  | expectedColon
  | expectedCommaOrBracket
  | expectedCommaOrBrace
  | expectedWord
  | expectedValue
  | invalidEscape
  | invalidNumber
  | numberOutOfRange
  | controlCharacter
  | keyNotString
  | loneSurrogate
  | trailingComma
  | trailingCharacters
  | unexpectedEndOfEscape
  | tooDeep
deriving Repr, DecidableEq

/-- The wording of a fault. -/
def Fault.message : Fault → String
  | .endInArray => "EOF while parsing a list"
  | .endInObject => "EOF while parsing an object"
  | .endInString => "EOF while parsing a string"
  | .endInValue => "EOF while parsing a value"
  | .expectedColon => "expected \x60:\x60"
  | .expectedCommaOrBracket => "expected \x60,\x60 or \x60]\x60"
  | .expectedCommaOrBrace => "expected \x60,\x60 or \x60\x7d\x60"
  | .expectedWord => "expected ident"
  | .expectedValue => "expected value"
  | .invalidEscape => "invalid escape"
  | .invalidNumber => "invalid number"
  | .numberOutOfRange => "number out of range"
  | .controlCharacter =>
    "control character (\\u0000-\\u001F) found while parsing a string"
  | .keyNotString => "key must be a string"
  | .loneSurrogate => "lone leading surrogate in hex escape"
  | .trailingComma => "trailing comma"
  | .trailingCharacters => "trailing characters"
  | .unexpectedEndOfEscape => "unexpected end of hex escape"
  | .tooDeep => "recursion limit exceeded"

/-- A fault with the unread text at the moment it was noticed. -/
structure Stop where
  /-- What is wrong. -/
  fault : Fault
  /-- The text that was not read yet. -/
  unread : List Char
  /-- The first unread character is the one at fault. -/
  ahead : Bool

/-- A fault at its place in a text. -/
structure Misread where
  /-- What is wrong. -/
  fault : Fault
  /-- The line, counted from one. -/
  line : Nat
  /-- The column in bytes. -/
  column : Nat
deriving Repr, DecidableEq

/-- The wording of a fault at its place. -/
def Misread.message (misread : Misread) : String :=
  misread.fault.message ++ " at line " ++ toString misread.line ++ " column " ++
    toString misread.column

/-- The line and the column right after a text. -/
def placeAfter (read : List Char) : Nat × Nat :=
  read.foldl
    (fun (line, column) c => if c = '\n' then (line + 1, 0) else (line, column + c.utf8Size))
    (1, 0)

/-- Gives a fault its place in the text that was being read. -/
def Stop.locate (text : List Char) (stop : Stop) : Misread :=
  let read := text.take (text.length - stop.unread.length)
  let (line, column) := placeAfter read
  match stop.ahead, stop.unread with
  | true, '\n' :: _ => ⟨stop.fault, line + 1, 0⟩
  | true, _ :: _ => ⟨stop.fault, line, column + 1⟩
  | _, _ => ⟨stop.fault, line, column⟩

/-- White space between the parts of a value. -/
def isSpace (c : Char) : Bool := c = ' ' || c = '\n' || c = '\t' || c = '\r'

/-- Text without the white space at its front. -/
def skipSpace (text : List Char) : List Char := text.dropWhile isSpace

/-- Reads four hexadecimal digits. -/
def readHex (text : List Char) : Except Stop (Nat × List Char) :=
  let front := text.take 4
  if front.length < 4 then .error ⟨.endInString, [], false⟩
  else
    match Number.ofHex? front with
    | some value => .ok (value, text.drop 4)
    | none => .error ⟨.invalidEscape, text.drop 4, false⟩

/-- Reads the second half of a character that is written as two escapes. -/
def readTrailing (leading : Nat) (text : List Char) : Except Stop (Char × List Char) :=
  match text with
  | [] => .error ⟨.endInString, [], false⟩
  | '\\' :: [] => .error ⟨.endInString, [], false⟩
  | '\\' :: 'u' :: rest =>
    match readHex rest with
    | .error stop => .error stop
    | .ok (trailing, rest) =>
      if 0xDC00 ≤ trailing ∧ trailing ≤ 0xDFFF then
        .ok (Char.ofNat ((leading - 0xD800) * 1024 + (trailing - 0xDC00) + 0x10000), rest)
      else .error ⟨.loneSurrogate, rest, false⟩
  | '\\' :: _ :: rest => .error ⟨.unexpectedEndOfEscape, rest, false⟩
  | _ :: rest => .error ⟨.unexpectedEndOfEscape, rest, false⟩

/-- Reads an escape by code point, without its first two characters. -/
def readCodePoint (text : List Char) : Except Stop (Char × List Char) :=
  match readHex text with
  | .error stop => .error stop
  | .ok (code, rest) =>
    if 0xDC00 ≤ code ∧ code ≤ 0xDFFF then .error ⟨.loneSurrogate, rest, false⟩
    else if 0xD800 ≤ code ∧ code ≤ 0xDBFF then readTrailing code rest
    else .ok (Char.ofNat code, rest)

/-- Reads an escape without its backslash. -/
def readEscape : List Char → Except Stop (Char × List Char)
  | [] => .error ⟨.endInString, [], false⟩
  | c :: rest =>
    if c = '"' ∨ c = '\\' ∨ c = '/' then .ok (c, rest)
    else if c = 'b' then .ok ('\x08', rest)
    else if c = 'f' then .ok ('\x0c', rest)
    else if c = 'n' then .ok ('\n', rest)
    else if c = 'r' then .ok ('\r', rest)
    else if c = 't' then .ok ('\t', rest)
    else if c = 'u' then readCodePoint rest
    else .error ⟨.invalidEscape, rest, false⟩

/-- Four digits leave no more than they were read from. -/
theorem readHex_length {text rest : List Char} {value : Nat}
    (h : readHex text = .ok (value, rest)) : rest.length ≤ text.length := by
  unfold readHex at h
  simp only at h
  split at h
  · simp at h
  · split at h
    · simp at h
      rw [← h.2]
      simp
    · simp at h

/-- A second half leaves no more than it was read from. -/
theorem readTrailing_length {leading : Nat} {text rest : List Char} {c : Char}
    (h : readTrailing leading text = .ok (c, rest)) : rest.length ≤ text.length := by
  unfold readTrailing at h
  split at h
  · simp at h
  · simp at h
  · rename_i after
    split at h
    · simp at h
    · rename_i found
      split at h
      · simp at h
        have := readHex_length found
        rw [← h.2]
        simp
        omega
      · simp at h
  · simp at h
  · simp at h

/-- An escape leaves no more than it was read from. -/
theorem readEscape_length {text rest : List Char} {c : Char}
    (h : readEscape text = .ok (c, rest)) : rest.length ≤ text.length := by
  unfold readEscape at h
  split at h
  · simp at h
  · rename_i first after
    by_cases unicode : first = 'u'
    · subst unicode
      simp only [readCodePoint] at h
      simp at h
      split at h
      · simp at h
      · rename_i found
        have := readHex_length found
        split at h
        · simp at h
        · split at h
          · have := readTrailing_length h
            simp
            omega
          · simp at h
            rw [← h.2]
            simp
            omega
    · simp only [unicode, if_false] at h
      repeat' split at h
      all_goals simp at h
      all_goals rw [← h.2]; simp

/-- Reads a string behind its opening quote; the characters read come in reverse. -/
def readString (reversed : List Char) (text : List Char) :
    Except Stop (List Char × List Char) :=
  match text with
  | [] => .error ⟨.endInString, [], false⟩
  | c :: rest =>
    if c = '"' then .ok (reversed, rest)
    else if c = '\\' then
      match _found : readEscape rest with
      | .ok (d, left) => readString (d :: reversed) left
      | .error stop => .error stop
    else if c.toNat < 0x20 then .error ⟨.controlCharacter, rest, false⟩
    else readString (c :: reversed) rest
termination_by text.length
decreasing_by
  · have := readEscape_length ‹_›
    simp
    omega
  · simp

/-- An integer that fits sixty-four bits, and the nearest double for any other. A
negative zero is a double, since no integer is one. -/
def ofInteger (negative : Bool) (value : Nat) : Option Json :=
  if negative then
    if value = 0 then some (.float (-0.0))
    else if value ≤ Number.twoTo 63 then some (.int (-(value : Int)))
    else
      let nearest := Number.nearest value 0
      if nearest.isFinite then some (.float (-nearest)) else none
  else if value ≤ Number.largestCount then some (.int value)
  else
    let nearest := Number.nearest value 0
    if nearest.isFinite then some (.float nearest) else none

/-- The nearest double with a sign, if it is finite. -/
def ofDecimal (negative : Bool) (mantissa : Nat) (exponent : Int) : Option Json :=
  let nearest := Number.nearest mantissa exponent
  if nearest.isFinite then some (.float (if negative then -nearest else nearest)) else none

/-- The value of a number, or the fault that it is too large. -/
def inRange (value : Option Json) (unread : List Char) : Except Stop (Json × List Char) :=
  match value with
  | some json => .ok (json, unread)
  | none => .error ⟨.numberOutOfRange, unread, false⟩

/-- Reads the exponent of a number, without its mark. -/
def readExponent (text : List Char) : Except Stop (Int × List Char) :=
  let (negative, digits) := match text with
    | '+' :: rest => (false, rest)
    | '-' :: rest => (true, rest)
    | rest => (false, rest)
  match digits with
  | [] => .error ⟨.endInValue, [], false⟩
  | c :: rest =>
    if c.isDigit then
      let value : Int := Number.ofDigits (digits.takeWhile Char.isDigit)
      .ok (if negative then -value else value, digits.dropWhile Char.isDigit)
    else .error ⟨.invalidNumber, rest, false⟩

/-- Reads what follows the digits and the fraction of a number. -/
def readScale (negative : Bool) (mantissa : Nat) (places : Nat) (text : List Char) :
    Except Stop (Json × List Char) :=
  match text with
  | 'e' :: rest | 'E' :: rest =>
    match readExponent rest with
    | .ok (exponent, left) => inRange (ofDecimal negative mantissa (exponent - places)) left
    | .error stop => .error stop
  | rest => inRange (ofDecimal negative mantissa (-(places : Int))) rest

/-- Reads what follows the digits before the point of a number. -/
def readFraction (negative : Bool) (whole : List Char) (text : List Char) :
    Except Stop (Json × List Char) :=
  match text with
  | '.' :: rest =>
    let fraction := rest.takeWhile Char.isDigit
    let left := rest.dropWhile Char.isDigit
    if fraction.isEmpty then
      .error ⟨if left.isEmpty then .endInValue else .invalidNumber, left, true⟩
    else readScale negative (Number.ofDigits (whole ++ fraction)) fraction.length left
  | 'e' :: _ | 'E' :: _ => readScale negative (Number.ofDigits whole) 0 text
  | rest => inRange (ofInteger negative (Number.ofDigits whole)) rest

/-- Reads a number without its sign. -/
def readNumber (negative : Bool) (text : List Char) : Except Stop (Json × List Char) :=
  match text with
  | [] => .error ⟨.endInValue, [], false⟩
  | '0' :: rest =>
    match rest with
    | c :: _ =>
      if c.isDigit then .error ⟨.invalidNumber, rest, true⟩
      else readFraction negative ['0'] rest
    | [] => readFraction negative ['0'] []
  | c :: rest =>
    if c.isDigit then
      readFraction negative (text.takeWhile Char.isDigit) (text.dropWhile Char.isDigit)
    else .error ⟨.invalidNumber, rest, false⟩

/-- Reads the rest of a word that has to follow its first letter. -/
def readWord (word : List Char) (value : Json) (text : List Char) :
    Except Stop (Json × List Char) :=
  match word, text with
  | [], rest => .ok (value, rest)
  | _ :: _, [] => .error ⟨.endInValue, [], false⟩
  | c :: more, d :: rest =>
    if c = d then readWord more value rest else .error ⟨.expectedWord, rest, false⟩

/-- Reads a value that is no container. -/
def readScalar (text : List Char) : Except Stop (Json × List Char) :=
  match text with
  | '"' :: rest =>
    match readString [] rest with
    | .ok (reversed, left) => .ok (.string (String.ofList reversed.reverse), left)
    | .error stop => .error stop
  | 'n' :: rest => readWord "ull".toList .null rest
  | 't' :: rest => readWord "rue".toList (.bool true) rest
  | 'f' :: rest => readWord "alse".toList (.bool false) rest
  | '-' :: rest => readNumber true rest
  | c :: _ => if c.isDigit then readNumber false text else .error ⟨.expectedValue, text, true⟩
  | [] => .error ⟨.endInValue, [], true⟩

/-- A container that is still open. -/
inductive Open where
  /-- A list with its items so far, the last one first. -/
  | array (reversed : List Json)
  /-- An object with its fields so far and the name of the field being read. -/
  | object (fields : Fields Json) (name : String)

/-- What may come next. -/
inductive Expected where
  /-- A value. -/
  | value
  /-- The first item of a list, or its end. -/
  | firstItem
  /-- An item of a list after a comma. -/
  | nextItem
  /-- A comma or the end of a list. -/
  | itemEnd
  /-- The first name of an object, or its end. -/
  | firstName
  /-- A name of an object after a comma. -/
  | nextName
  /-- The colon behind a name. -/
  | colon
  /-- A comma or the end of an object. -/
  | fieldEnd
  /-- The end of the text. -/
  | nothing (value : Json)

/-- The fault of a text that ends while something is expected. -/
def Expected.endFault : Expected → Fault
  | .firstItem | .itemEnd => .endInArray
  | .firstName | .colon | .fieldEnd => .endInObject
  | _ => .endInValue

/-- Hands a finished value to the innermost open container. -/
def deliver (value : Json) : List Open → List Open × Expected
  | [] => ([], .nothing value)
  | .array reversed :: rest => (.array (value :: reversed) :: rest, .itemEnd)
  | .object fields name :: rest => (.object (Fields.insert name value fields) "" :: rest, .fieldEnd)

/-- Closes the innermost container and hands it to the next one. -/
def close : List Open → List Open × Expected
  | .array reversed :: rest => deliver (.array reversed.reverse) rest
  | .object fields _ :: rest => deliver (.object fields) rest
  | [] => ([], .nothing .null)

/-- Containers may not be nested this deep. -/
def depthLimit : Nat := 128

/-- One step of the reader: what it consumes, and what it expects afterwards. -/
def step (stack : List Open) (expected : Expected) (text : List Char) :
    Except Stop (List Open × Expected × List Char) :=
  let value : Except Stop (List Open × Expected × List Char) :=
    match text with
    | '[' :: rest =>
      if stack.length + 1 < depthLimit then .ok (.array [] :: stack, .firstItem, rest)
      else .error ⟨.tooDeep, text, true⟩
    | '{' :: rest =>
      if stack.length + 1 < depthLimit then .ok (.object [] "" :: stack, .firstName, rest)
      else .error ⟨.tooDeep, text, true⟩
    | _ =>
      match readScalar text with
      | .ok (json, left) =>
        let (stack, expected) := deliver json stack
        .ok (stack, expected, left)
      | .error stop => .error stop
  let shut (rest : List Char) : Except Stop (List Open × Expected × List Char) :=
    let (stack, expected) := close stack
    .ok (stack, expected, rest)
  let name (rest : List Char) : Except Stop (List Open × Expected × List Char) :=
    match readString [] rest with
    | .error stop => .error stop
    | .ok (reversed, left) =>
      match stack with
      | .object fields _ :: outer =>
        .ok (.object fields (String.ofList reversed.reverse) :: outer, .colon, left)
      | _ => .error ⟨.keyNotString, text, true⟩
  match expected, text with
  | .nothing _, _ => .error ⟨.trailingCharacters, text, true⟩
  | .firstItem, ']' :: rest => shut rest
  | .nextItem, ']' :: _ => .error ⟨.trailingComma, text, true⟩
  | .itemEnd, ']' :: rest => shut rest
  | .itemEnd, ',' :: rest => .ok (stack, .nextItem, rest)
  | .itemEnd, _ => .error ⟨.expectedCommaOrBracket, text, true⟩
  | .firstName, '}' :: rest => shut rest
  | .firstName, '"' :: rest => name rest
  | .nextName, '"' :: rest => name rest
  | .nextName, '}' :: _ => .error ⟨.trailingComma, text, true⟩
  | .firstName, _ | .nextName, _ => .error ⟨.keyNotString, text, true⟩
  | .colon, ':' :: rest => .ok (stack, .value, rest)
  | .colon, _ => .error ⟨.expectedColon, text, true⟩
  | .fieldEnd, '}' :: rest => shut rest
  | .fieldEnd, ',' :: rest => .ok (stack, .nextName, rest)
  | .fieldEnd, _ => .error ⟨.expectedCommaOrBrace, text, true⟩
  | .value, _ | .firstItem, _ | .nextItem, _ => value

/-- Runs the reader for at most as many steps as there are characters. -/
def run (steps : Nat) (stack : List Open) (expected : Expected) (text : List Char) :
    Except Stop Json :=
  match skipSpace text with
  | [] =>
    match expected with
    | .nothing value => .ok value
    | other => .error ⟨other.endFault, [], true⟩
  | c :: rest =>
    match steps with
    | 0 => .error ⟨.trailingCharacters, c :: rest, true⟩
    | steps + 1 =>
      match step stack expected (c :: rest) with
      | .ok (stack, expected, left) => run steps stack expected left
      | .error stop => .error stop

/-- Reads a whole text as one value. -/
def parse (text : String) : Except Misread Json :=
  let text := text.toList
  match run text.length [] .value text with
  | .ok json => .ok json
  | .error stop => .error (stop.locate text)

end Json

end NoteTemplate
