import NoteTemplate.Template.Node
import NoteTemplate.Template.Token

/-!
# From tokens to trees

The groups that are open lie on a stack while the tokens are read one by one. A
token either joins the body that is being read, opens a group, moves on to the
next branch of a choice, or closes the innermost group. Everything else is a
fault, and the first fault ends the reading.
-/

namespace NoteTemplate.Template

/-- What keeps a text from being a template. -/
inductive SyntaxFault where
  /-- A token that closes or continues a group where no group is open. -/
  | unexpected (token : Token)
  /-- A token that does not belong to the innermost open group. -/
  | unexpectedInside (token : Token) (group : Group) (opened : Nat)
  /-- A token behind the last branch of a choice that does not close it. -/
  | unexpectedAfterLast (token : Token) (opened : Nat)
  /-- A group that the text does not close. -/
  | unclosed (group : Group)
  /-- A group inside too many others. -/
  | tooDeep
deriving Repr, DecidableEq

/-- Groups may be nested this deep. -/
def nestingLimit : Nat := 64

/-- The wording of a fault. -/
def SyntaxFault.message : SyntaxFault → String
  | .unexpected token => "unexpected " ++ token.describe
  | .unexpectedInside token group opened =>
    "unexpected " ++ token.describe ++ " inside " ++ group.label ++ " opened at line " ++
      toString opened
  | .unexpectedAfterLast token opened =>
    "unexpected " ++ token.describe ++ " after " ++ Token.otherwise.describe ++ " of " ++
      Group.choice.label ++ " opened at line " ++ toString opened
  | .unclosed group => "unclosed " ++ group.label
  | .tooDeep => "nesting deeper than " ++ toString nestingLimit

/-- A fault with the line of the token at fault. -/
structure SyntaxError where
  /-- What is wrong. -/
  fault : SyntaxFault
  /-- The line, counted from one. -/
  line : Nat
deriving Repr, DecidableEq

/-- The wording of a fault without its line. -/
def SyntaxError.message (error : SyntaxError) : String := error.fault.message

/-- The wording of a fault with its line. -/
def SyntaxError.display (error : SyntaxError) : String :=
  "line " ++ toString error.line ++ ": " ++ error.message

/-- How far a group that is open has been read, without the body being read. -/
inductive Opened where
  /-- A branch of a choice, with the finished branches, the last one first. -/
  | branch (finished : List (String × List Node)) (condition : String)
  /-- The last branch of a choice. -/
  | otherwise (finished : List (String × List Node))
  /-- An iteration. -/
  | each (path : String)
  /-- A named block. -/
  | block (name : String)

/-- The kind of an open group. -/
def Opened.group : Opened → Group
  | .branch _ _ | .otherwise _ => .choice
  | .each _ => .each
  | .block _ => .block

/-- A group that is open, and what was read before it. -/
structure Level where
  /-- The group. -/
  opened : Opened
  /-- The line of the tag that opened it. -/
  line : Nat
  /-- The nodes before it in the body that holds it, the last one first. -/
  before : List Node

/-- A parser between two tokens. -/
structure ParserState where
  /-- The open groups, innermost first. -/
  levels : List Level := []
  /-- The nodes of the body being read, the last one first. -/
  nodes : List Node := []

/-- Adds a node to the body being read. -/
def ParserState.add (state : ParserState) (node : Node) : ParserState :=
  { state with nodes := node :: state.nodes }

/-- Opens a group. -/
def ParserState.enter (state : ParserState) (opened : Opened) (line : Nat) :
    Except SyntaxError ParserState :=
  if state.levels.length < nestingLimit then
    .ok { levels := ⟨opened, line, state.nodes⟩ :: state.levels, nodes := [] }
  else .error ⟨.tooDeep, line⟩

/-- The body being read. -/
def ParserState.body (state : ParserState) : List Node := state.nodes.reverse

/-- Reads a token that continues or closes the innermost group. -/
def ParserState.leave (state : ParserState) (token : Token) (line : Nat) :
    Except SyntaxError ParserState :=
  match state.levels with
  | [] => .error ⟨.unexpected token, line⟩
  | level :: rest =>
    match level.opened, token with
    | .branch finished condition, .branch next =>
      let opened := Opened.branch ((condition, state.body) :: finished) next
      .ok { levels := { level with opened := opened } :: rest, nodes := [] }
    | .branch finished condition, .otherwise =>
      let opened := Opened.otherwise ((condition, state.body) :: finished)
      .ok { levels := { level with opened := opened } :: rest, nodes := [] }
    | .branch finished condition, .endChoice =>
      let node := Node.choice ((condition, state.body) :: finished).reverse none
      .ok { levels := rest, nodes := node :: level.before }
    | .otherwise finished, .endChoice =>
      let node := Node.choice finished.reverse (some state.body)
      .ok { levels := rest, nodes := node :: level.before }
    | .each path, .endEach =>
      .ok { levels := rest, nodes := .each path state.body :: level.before }
    | .block name, .endBlock =>
      .ok { levels := rest, nodes := .block name state.body :: level.before }
    | .otherwise _, token => .error ⟨.unexpectedAfterLast token level.line, line⟩
    | opened, token => .error ⟨.unexpectedInside token opened.group level.line, line⟩

/-- Reads one token. -/
def ParserState.step (state : ParserState) (placed : Placed) : Except SyntaxError ParserState :=
  let line := placed.line
  match placed.token with
  | .text text => .ok (state.add (.text text))
  | .variable path => .ok (state.add (.variable path))
  | .call name arguments => .ok (state.add (.call name arguments line))
  | .inclusion name => .ok (state.add (.inclusion name line))
  | .parent name => .ok (state.add (.parent name))
  | .unknown tag => .ok (state.add (.unknown tag line))
  | .choice condition => state.enter (.branch [] condition) line
  | .each path => state.enter (.each path) line
  | .block name => state.enter (.block name) line
  | token => state.leave token line

/-- Ends the reading: no group may be open. -/
def ParserState.finish (state : ParserState) : Except SyntaxError (List Node) :=
  match state.levels with
  | [] => .ok state.body
  | level :: _ => .error ⟨.unclosed level.opened.group, level.line⟩

/-- Reads tokens one after another from a state. -/
def parseFrom (state : ParserState) : List Placed → Except SyntaxError (List Node)
  | [] => state.finish
  | placed :: rest =>
    match state.step placed with
    | .ok next => parseFrom next rest
    | .error error => .error error

/-- The parser goes on from the state that a token leads to. -/
theorem parseFrom_ok {state next : ParserState} {placed : Placed} (rest : List Placed)
    (step : state.step placed = .ok next) :
    parseFrom state (placed :: rest) = parseFrom next rest := by
  rw [parseFrom, step]

/-- The parser stops at a token at fault. -/
theorem parseFrom_error {state : ParserState} {placed : Placed} {error : SyntaxError}
    (rest : List Placed) (step : state.step placed = .error error) :
    parseFrom state (placed :: rest) = .error error := by
  rw [parseFrom, step]

/-- The tree of a template, or the first fault in it. -/
def parse (text : String) : Except SyntaxError (List Node) := parseFrom {} (tokens text)

end NoteTemplate.Template
