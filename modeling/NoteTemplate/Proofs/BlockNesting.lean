import NoteTemplate.Proofs.Directives

/-!
# The nesting of blocks

Whether blocks are balanced is a matter of the directives that open and close them: of those
that are scanned in a text for filling in parents, and of those among its tokens for the
parser.
-/

namespace NoteTemplate.Template

/-- Whether every block that directives open is closed, given how many are open, and none lies
inside too many others. -/
def isNested (depth : Nat) : List Directive → Bool
  | [] => depth = 0
  | .opens _ :: rest => depth < nestingLimit && isNested (depth + 1) rest
  | .closes :: rest =>
    match depth with
    | 0 => false
    | depth + 1 => isNested depth rest
  | .parent _ :: rest => isNested depth rest

/-- The blocks of a text are balanced as those that are scanned in it are nested. -/
theorem isBalanced_eq_isNested (text : List Char) :
    isBalanced 0 (marks text) = isNested 0 (scanned text) := by
  have parts : ∀ (parts : List Mark) (depth : Nat),
      isBalanced depth parts = isNested depth (parts.filterMap Mark.directive?) := by
    intro parts
    induction parts with
    | nil => exact fun _ => rfl
    | cons mark parts ih =>
      intro depth
      cases mark with
      | literal => exact ih depth
      | opens source name => exact congrArg (depth < nestingLimit && ·) (ih (depth + 1))
      | closes source =>
        cases depth with
        | zero => rfl
        | succ depth => exact ih depth
  have blocks : ∀ (directives : List Directive) (depth : Nat),
      isNested depth (directives.filter fun directive => directive.parent?.isNone) =
        isNested depth directives := by
    intro directives
    induction directives with
    | nil => exact fun _ => rfl
    | cons directive directives ih =>
      intro depth
      cases directive with
      | opens name => exact congrArg (depth < nestingLimit && ·) (ih (depth + 1))
      | closes =>
        cases depth with
        | zero => rfl
        | succ depth => exact ih depth
      | parent name => exact ih depth
  rw [parts, marks_directives, blocks]

/-- A token that opens or closes a block. -/
def Token.isBlockTag : Token → Bool
  | block _ => true
  | endBlock => true
  | _ => false

/-- The tokens of the tags of blocks in a text. -/
def blockTokens (text : String) : List Placed := (tokens text).filter (·.token.isBlockTag)

/-- Inside open blocks, the parser accepts the tags of blocks among some tokens exactly if the
directives that they stand for are nested. -/
theorem parseFrom_isOk (placed : List Placed) :
    ∀ state : ParserState, (∀ level ∈ state.levels, ∃ name, level.opened = .block name) →
      (parseFrom state (placed.filter (·.token.isBlockTag))).isOk =
        isNested state.levels.length (placed.filterMap (·.token.directive?)) := by
  induction placed with
  | nil =>
    intro state _
    obtain ⟨levels, nodes⟩ := state
    cases levels with
    | nil => rfl
    | cons level levels => rfl
  | cons first placed ih =>
    intro state blocks
    obtain ⟨token, line⟩ := first
    cases token with
    | block name =>
      have kept : (⟨.block name, line⟩ :: placed).filter (·.token.isBlockTag) =
          ⟨.block name, line⟩ :: placed.filter (·.token.isBlockTag) :=
        List.filter_cons_of_pos rfl
      have nested : isNested state.levels.length
          ((⟨.block name, line⟩ :: placed).filterMap (·.token.directive?)) =
          (decide (state.levels.length < nestingLimit) &&
            isNested (state.levels.length + 1) (placed.filterMap (·.token.directive?))) := rfl
      rw [kept, nested]
      by_cases room : state.levels.length < nestingLimit
      · have entered : state.step ⟨.block name, line⟩ =
            .ok { levels := ⟨.block name, line, state.nodes⟩ :: state.levels, nodes := [] } :=
          if_pos room
        rw [parseFrom_ok _ entered, decide_eq_true room, Bool.true_and]
        refine ih _ fun level member => ?_
        rcases List.mem_cons.1 member with rfl | later
        · exact ⟨name, rfl⟩
        · exact blocks level later
      · have full : state.step ⟨.block name, line⟩ = .error ⟨.tooDeep, line⟩ := if_neg room
        rw [parseFrom_error _ full, decide_eq_false room, Bool.false_and]
        rfl
    | endBlock =>
      obtain ⟨levels, nodes⟩ := state
      cases levels with
      | nil => rfl
      | cons level levels =>
        obtain ⟨name, opened⟩ := blocks level List.mem_cons_self
        obtain ⟨_, opening, before⟩ := level
        cases opened
        exact ih ⟨levels, _⟩ fun level member => blocks level (List.mem_cons_of_mem _ member)
    | parent name => exact ih state blocks
    | _ => exact ih state blocks

end NoteTemplate.Template
