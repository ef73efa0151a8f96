import NoteTemplate.Context
import NoteTemplate.Text.Casing
import NoteTemplate.Value.Display

/-!
# Conditions

A condition is a list of words, quoted texts and comparison signs. The keyword
`and` binds loosest, then `or`, and `not` binds what follows it on its level:
a leading `not` negates the whole condition. Parts are judged from left to right,
and a part that cannot change the outcome is not looked at, so a fault in it goes
unnoticed.
-/

namespace NoteTemplate.Template

open Text (isBlank)

/-- How two operands are compared. -/
inductive Comparison where
  | equal
  | unequal
  | atLeast
  | atMost
  | greater
  | less
deriving Repr, DecidableEq

/-- A part of a condition. -/
inductive Term where
  /-- A literal or a path. -/
  | word (text : List Char)
  /-- A text between quotes. -/
  | quoted (text : List Char)
  /-- A comparison sign. -/
  | sign (comparison : Comparison)
  | and
  | or
  | not
deriving Repr, DecidableEq

/-- Why a condition has no outcome. -/
inductive ConditionFault where
  /-- There is nothing in it. -/
  | empty
  /-- A quote is opened and not closed. -/
  | unterminatedQuote
  /-- A character that starts a comparison sign and does not finish it. -/
  | unexpected (c : Char)
  /-- A side of a keyword that joins two parts is empty. -/
  | dangling (keyword : String)
  /-- Nothing follows a negation. -/
  | missingOperand
  /-- Several terms that make up no comparison. -/
  | malformedComparison
  /-- A comparison sign where an operand belongs. -/
  | signAsOperand
  /-- A keyword where an operand belongs. -/
  | misplacedKeyword
deriving Repr, DecidableEq

/-- The wording of a fault. -/
def ConditionFault.message : ConditionFault → String
  | .empty => "empty condition"
  | .unterminatedQuote => "unterminated quote"
  | .unexpected c => "unexpected '" ++ c.toString ++ "'"
  | .dangling keyword => "dangling '" ++ keyword ++ "'"
  | .missingOperand => "missing operand"
  | .malformedComparison => "malformed comparison"
  | .signAsOperand => "operator without left operand"
  | .misplacedKeyword => "misplaced keyword"

/-- A quotation mark. -/
def isQuote (c : Char) : Bool := c = '"' || c = '\''

/-- A character of a comparison sign. -/
def isSignCharacter (c : Char) : Bool := c = '=' || c = '!' || c = '<' || c = '>'

/-- A character that a word can hold. -/
def isTermCharacter (c : Char) : Bool := !isBlank c && !isQuote c && !isSignCharacter c

/-- The comparison that a sign of one or two characters means; the flag tells
whether an equals sign follows the first. -/
def comparison? : Char → Bool → Option Comparison
  | '=', true => some .equal
  | '!', true => some .unequal
  | '>', true => some .atLeast
  | '<', true => some .atMost
  | '>', false => some .greater
  | '<', false => some .less
  | _, _ => none

/-- A word, or the keyword that it spells. -/
def Term.ofWord (word : List Char) : Term :=
  if word = "and".toList then .and
  else if word = "or".toList then .or
  else if word = "not".toList then .not
  else .word word

/-- Cuts a condition into its terms. -/
def terms (text : List Char) : Except ConditionFault (List Term) :=
  match text with
  | [] => .ok []
  | c :: rest =>
    if isBlank c then terms rest
    else if isQuote c then
      if c ∈ rest then
        match terms ((rest.dropWhile (· != c)).drop 1) with
        | .ok more => .ok (.quoted (rest.takeWhile (· != c)) :: more)
        | .error fault => .error fault
      else .error .unterminatedQuote
    else if isSignCharacter c then
      let doubled := rest.head? = some '='
      match comparison? c doubled with
      | some comparison =>
        match terms (if doubled then rest.drop 1 else rest) with
        | .ok more => .ok (.sign comparison :: more)
        | .error fault => .error fault
      | none => .error (.unexpected c)
    else
      match terms (rest.dropWhile isTermCharacter) with
      | .ok more => .ok (Term.ofWord (c :: rest.takeWhile isTermCharacter) :: more)
      | .error fault => .error fault
termination_by text.length
decreasing_by
  · simp
  · have := (List.dropWhile_suffix (l := rest) (· != c)).length_le
    simp
    omega
  · simp only [List.length_cons]
    split
    · simp only [List.length_drop]
      omega
    · omega
  · have := (List.dropWhile_suffix (l := rest) isTermCharacter).length_le
    simp
    omega

/-- The number that a word spells. Words such as those for infinity spell none. -/
def numberLiteral? (word : List Char) : Option Value :=
  match word with
  | [] => none
  | c :: _ =>
    if c.isDigit ∨ c = '-' ∨ c = '+' ∨ c = '.' then
      match Number.int64? word with
      | some value => some (.int value)
      | none => (Number.finiteDouble? word).map .float
    else none

/-- The value that a word spells: a truth value, nothing, or a number. -/
def literal? (word : List Char) : Option Value :=
  let lower := Text.lowerAscii word
  if lower = "true".toList then some (.bool true)
  else if lower = "false".toList then some (.bool false)
  else if lower = "null".toList ∨ lower = "none".toList then some .null
  else numberLiteral? word

/-- Whether two values count as equal. Nothing equals nothing and the empty text;
numbers are equal by their double; other values when they agree or when they show
the same text. -/
def valuesEqual (left right : Value) : Bool :=
  let isVoid (value : Value) : Bool := value.isNull || value.text? == some ""
  let alike := left.agrees right || left.display == right.display
  match left, right with
  | .null, other => isVoid other
  | other, .null => isVoid other
  | .int _, .int _ | .int _, .float _ | .float _, .int _ | .float _, .float _ =>
    match left.number?, right.number? with
    | some a, some b => a == b
    | none, none => true
    | _, _ => false
  | _, _ => alike

/-- How two doubles are ordered, if they are. -/
def compareDoubles (left right : Float) : Option Ordering :=
  if left < right then some .lt
  else if right < left then some .gt
  else if left == right then some .eq
  else none

/-- How two values are ordered, if they are: moments by their instants, everything
else by number. -/
def compareValues (left right : Value) : Option Ordering :=
  match left, right with
  | .moment a, .moment b => some (a.compareInstant b)
  | _, _ =>
    match left.number?, right.number? with
    | some a, some b => compareDoubles a b
    | _, _ => none

/-- Whether a comparison holds between two values. -/
def Comparison.holds (comparison : Comparison) (left right : Value) : Bool :=
  match comparison with
  | .equal => valuesEqual left right
  | .unequal => !valuesEqual left right
  | .atLeast => (compareValues left right).any Ordering.isGE
  | .atMost => (compareValues left right).any Ordering.isLE
  | .greater => (compareValues left right).any Ordering.isGT
  | .less => (compareValues left right).any Ordering.isLT

/-- Takes the negations off the front of some terms; the flag is set when their
number is odd. -/
def stripNots : List Term → Bool × List Term
  | .not :: rest =>
    let (negated, operand) := stripNots rest
    (!negated, operand)
  | terms => (false, terms)

/-- The stretches of terms between the occurrences of a keyword. -/
def segments (keyword : Term) : List Term → List (List Term)
  | [] => [[]]
  | term :: rest =>
    if term = keyword then [] :: segments keyword rest
    else
      match segments keyword rest with
      | [] => [[term]]
      | first :: others => (term :: first) :: others

section Evaluation

variable (lookup : Lookup)

/-- The value of a term that stands as an operand. An unknown path is empty text. -/
def operand : Term → Except ConditionFault Value
  | .quoted text => .ok (.string (String.ofList text))
  | .word word =>
    .ok ((literal? word).getD ((lookup (String.ofList word)).getD (.string "")))
  | .sign _ => .error .signAsOperand
  | .and | .or | .not => .error .misplacedKeyword

/-- Judges one operand, or a comparison of two. -/
def judgeComparison : List Term → Except ConditionFault Bool
  | [] => .error .missingOperand
  | [term] => return (← operand lookup term).isTruthy
  | [left, .sign comparison, right] => do
    let left ← operand lookup left
    let right ← operand lookup right
    return comparison.holds left right
  | _ => .error .malformedComparison

/-- Judges a part under the negations at its front. -/
def judgeNegated (judge : List Term → Except ConditionFault Bool) (terms : List Term) :
    Except ConditionFault Bool :=
  let (negated, rest) := stripNots terms
  match judge rest with
  | .ok outcome => .ok (outcome != negated)
  | .error fault => .error fault

/-- Judges parts from left to right until one has the outcome that decides. -/
def judgeUntil (decisive : Bool) (judge : List Term → Except ConditionFault Bool) :
    List (List Term) → Except ConditionFault Bool
  | [] => .ok (!decisive)
  | part :: rest =>
    match judge part with
    | .error fault => .error fault
    | .ok outcome => if outcome = decisive then .ok decisive else judgeUntil decisive judge rest

/-- Judges the parts that a keyword joins. No part may be empty. -/
def judgeJoined (keyword : Term) (name : String) (decisive : Bool)
    (judge : List Term → Except ConditionFault Bool) (terms : List Term) :
    Except ConditionFault Bool :=
  let parts := segments keyword terms
  if parts.any List.isEmpty then .error (.dangling name) else judgeUntil decisive judge parts

/-- Judges alternatives, of which one has to hold. -/
def judgeAlternatives (terms : List Term) : Except ConditionFault Bool :=
  judgeJoined .or "or" true (judgeNegated (judgeComparison lookup)) terms

/-- Judges a whole condition, all of whose parts have to hold. -/
def judgeTerms (terms : List Term) : Except ConditionFault Bool :=
  judgeNegated (judgeJoined .and "and" false (judgeNegated (judgeAlternatives lookup))) terms

/-- The outcome of a condition, or the first fault met. -/
def judge (condition : String) : Except ConditionFault Bool :=
  match terms condition.toList with
  | .error fault => .error fault
  | .ok [] => .error .empty
  | .ok (term :: rest) => judgeTerms lookup (term :: rest)

/-- Whether a condition holds; one with a fault does not. -/
def holds (condition : String) : Bool := (judge lookup condition).toOption.getD false

end Evaluation

end NoteTemplate.Template
