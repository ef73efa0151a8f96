import NoteTemplate.Proofs.ConditionMeaning
import NoteTemplate.Template.Rendering

/-!
# What nodes show

`Shows` says that nodes render to a text and to nothing else, with no warning. There is a rule for
each kind of node: for literal text, for the value of a path, for a call, for a choice by the truth
of one value, for a block, and for an iteration over texts whose every output starts a line of its
own.
-/

namespace NoteTemplate

namespace Fields

variable {α : Type}

/-- A looked-up name after insertions one after another: the last thing under the name, or else what
was there before. -/
theorem find?_extend (name : String) (fields : Fields α) (more : List (String × α)) :
    find? name (extend fields more) =
      ((more.reverse.find? (·.1 = name)).map Prod.snd).or (find? name fields) := by
  induction more generalizing fields with
  | nil => rfl
  | cons entry rest ih =>
    obtain ⟨key, thing⟩ := entry
    have step : extend fields ((key, thing) :: rest) = extend (insert key thing fields) rest := rfl
    rw [step, ih, find?_insert, List.reverse_cons, List.find?_append]
    by_cases same : name = key
    · cases rest.reverse.find? (·.1 = name) <;> simp [same]
    · cases rest.reverse.find? (·.1 = name) <;> simp [same, Ne.symm same]

/-- A looked-up name among collected things: the last thing under the name. -/
theorem find?_ofList (name : String) (named : List (String × α)) :
    find? name (ofList named) = (named.reverse.find? (·.1 = name)).map Prod.snd := by
  rw [ofList, find?_extend]
  exact Option.or_none

end Fields

namespace Template

section Words

variable {lookup : Lookup}

/-- Whether a condition reads a word as a path. -/
def isPathWord (word : List Char) : Bool :=
  !word.isEmpty && word.all isTermCharacter && Term.ofWord word = .word word &&
    (literal? word).isNone

/-- A condition that is a path holds as the value does that the path leads to. -/
theorem judge_pathWord {word : String} {value : Value} (isPath : isPathWord word.toList = true)
    (found : lookup word = some value) : judge lookup word = .ok value.isTruthy := by
  simp only [isPathWord, Bool.and_eq_true, decide_eq_true_eq, Option.isNone_iff_eq_none,
    Bool.not_eq_true', List.isEmpty_eq_false_iff] at isPath
  obtain ⟨⟨⟨some, letters⟩, spelled⟩, noLiteral⟩ := isPath
  have cut : terms word.toList = .ok [.word word.toList] := by
    have ends : EndsWord [] := nofun
    have none : terms [] = .ok [] := by rw [terms.eq_def]
    have read := terms_letters some (List.all_eq_true.1 letters) ends none
    rwa [List.append_nil, spelled] at read
  have single : judgeComparison lookup [.word word.toList] = .ok value.isTruthy := by
    rw [judgeComparison, operand, noLiteral, String.ofList_toList, found]
    rfl
  rw [judge, cut]
  simp [judgeTerms, judgeNegated, stripNots, judgeJoined, segments, judgeAlternatives, judgeUntil,
    single]
  cases value.isTruthy <;> rfl

end Words

section Scopes

/-- A path of one name. -/
def isName (path : String) : Bool := pathSegments path = [path]

/-- Outside all iterations a name leads to what the context binds it to. -/
theorem lookup_name (context : Context) {name : String} (single : isName name = true) :
    Scope.lookup ⟨context, []⟩ name = context.get? name := by
  have segments : pathSegments name = [name] := of_decide_eq_true single
  have descended : (context.get? name).bind (Value.descend []) = context.get? name := by
    cases context.get? name <;> rfl
  rw [Scope.lookup, segments]
  exact descended

/-- Within an iteration over texts the name of the item leads to the text. -/
theorem lookup_item (scope : Scope) (text : String) (index : Nat) :
    (scope.enter (.string text) index).lookup "@item" = some (.string text) := by
  have segments : pathSegments "@item" = ["@item"] := by decide +kernel
  rw [Scope.lookup, segments]
  rfl

end Scopes

section Joining

/-- Outputs that start lines of their own need not be kept apart. -/
theorem joinChunks_lines {chunks : List (List Char)}
    (starts : ∀ chunk ∈ chunks, chunk.head? = some '\n') (previous : Option String) :
    joinChunks previous (chunks.map String.ofList) = String.ofList chunks.flatten := by
  induction chunks generalizing previous with
  | nil => rfl
  | cons chunk rest ih =>
    have start := starts chunk List.mem_cons_self
    have later := ih (fun one member => starts one (List.mem_cons_of_mem _ member))
      (some (String.ofList chunk))
    have close : separator previous (String.ofList chunk) = "" := by
      cases previous with
      | none => rfl
      | some text => simp [separator, start]
    rw [List.map_cons, joinChunks, close, later, String.empty_append, List.flatten_cons,
      String.ofList_append]

/-- Texts that start lines of their own are joined as they are. -/
theorem joinIterations_lines {texts : List (List Char)}
    (starts : ∀ text ∈ texts, text.head? = some '\n') :
    joinIterations (texts.map fun text => Fragment.ofText (String.ofList text)) =
      Fragment.ofText (String.ofList texts.flatten) := by
  have chunks := joinChunks_lines starts none
  have silent : (texts.map fun text => Fragment.ofText (String.ofList text)).flatMap
      Fragment.warnings = [] := by
    simp [Fragment.ofText]
  have shown : (texts.map fun text => Fragment.ofText (String.ofList text)).map Fragment.text =
      texts.map String.ofList := by
    rw [List.map_map]
    rfl
  rw [joinIterations, silent, shown, chunks]
  rfl

end Joining

section Shows

variable {σ : Type} {insert : Scope → String → Attempt σ Fragment} {scope : Scope}
  {text more : List Char}

/-- Nodes render to a text, without warnings. -/
def Shows (insert : Scope → String → Attempt σ Fragment) (scope : Scope) (nodes : List Node)
    (text : List Char) : Prop :=
  renderBody insert scope nodes = pure (Fragment.ofText (String.ofList text))

namespace Shows

/-- The text that is shown can be written in another way. -/
theorem of_eq {nodes : List Node} (shown : Shows insert scope nodes text) (same : text = more) :
    Shows insert scope nodes more :=
  same ▸ shown

/-- Nodes one behind another show their texts one behind another. -/
theorem append {first later : List Node} (here : Shows insert scope first text)
    (there : Shows insert scope later more) :
    Shows insert scope (first ++ later) (text ++ more) := by
  have shown : renderBody insert scope (first ++ later) =
      pure ((Fragment.ofText (String.ofList text)).append
        (Fragment.ofText (String.ofList more))) := by
    rw [renderBody_append, here, there, pure_bind, pure_bind]
  have joined : (Fragment.ofText (String.ofList text)).append
      (Fragment.ofText (String.ofList more)) = Fragment.ofText (String.ofList (text ++ more)) := by
    simp [Fragment.append, Fragment.ofText]
  rw [Shows, shown, joined]

/-- A node in front of others. -/
theorem cons {node : Node} {rest : List Node} (here : Shows insert scope [node] text)
    (there : Shows insert scope rest more) :
    Shows insert scope (node :: rest) (text ++ more) :=
  append here there

/-- Literal text shows itself. -/
theorem literal (literal : String) : Shows insert scope [.text literal] literal.toList := by
  rw [Shows, renderBody_singleton, String.ofList_toList]
  rfl

/-- A path shows the value that it leads to. -/
theorem value {path : String} {value : Value} (found : scope.lookup path = some value) :
    Shows insert scope [.variable path] value.display.toList := by
  rw [Shows, renderBody_singleton, String.ofList_toList, renderNode, renderVariable, found]

/-- A call shows what it answers. -/
theorem call {name source answer : String} (line : Nat)
    (answered : Template.call scope.lookup name source = .ok answer) :
    Shows insert scope [.call name source line] answer.toList := by
  rw [Shows, renderBody_singleton, String.ofList_toList, renderNode, renderCall, answered]
  rfl

/-- A block shows what its body does. -/
theorem block (name : String) {body : List Node} (inner : Shows insert scope body text) :
    Shows insert scope [.block name body] text := by
  rw [Shows, renderBody_singleton, renderNode]
  exact inner

/-- A choice by a path shows its body when the value of the path counts as true, and else
nothing. -/
theorem choice {path : String} {value : Value} {body : List Node}
    (isPath : isPathWord path.toList = true) (found : scope.lookup path = some value)
    (inner : Shows insert scope body text) :
    Shows insert scope [.choice [(path, body)] none] (if value.isTruthy then text else []) := by
  rw [Shows, renderBody_singleton, renderNode, renderBranches, judge_pathWord isPath found]
  cases value.isTruthy with
  | true => exact inner
  | false => rfl

/-- Iterations over texts render one behind another. -/
theorem renderItems_texts {body : List Node} {chunk : String → List Char}
    (inner : ∀ text index, Shows insert (scope.enter (.string text) index) body (chunk text))
    (texts : List String) (index : Nat) :
    renderItems (fun item index => renderBody insert (scope.enter item index) body) index
      (texts.map .string) =
      pure (texts.map fun text => Fragment.ofText (String.ofList (chunk text))) := by
  induction texts generalizing index with
  | nil => rfl
  | cons text rest ih =>
    rw [List.map_cons, renderItems, inner text index, ih, pure_bind, pure_bind]
    rfl

/-- An iteration over texts shows what its body shows for each of them, if every output starts a
line of its own. -/
theorem each {path : String} {body : List Node} {texts : List String} {chunk : String → List Char}
    (found : scope.lookup path = some (.list (texts.map .string)))
    (starts : ∀ text, (chunk text).head? = some '\n')
    (inner : ∀ text index, Shows insert (scope.enter (.string text) index) body (chunk text)) :
    Shows insert scope [.each path body] (texts.flatMap chunk) := by
  have iterations : renderItems (fun item index => renderBody insert (scope.enter item index) body)
      0 (texts.map .string) =
        pure (texts.map fun text => Fragment.ofText (String.ofList (chunk text))) :=
    renderItems_texts inner texts 0
  have apart : ∀ text ∈ texts.map chunk, text.head? = some '\n' := by
    intro text member
    obtain ⟨one, -, rfl⟩ := List.mem_map.1 member
    exact starts one
  have joined := joinIterations_lines apart
  rw [List.map_map, ← List.flatMap_def] at joined
  rw [Shows, renderBody_singleton, renderNode, found]
  dsimp only
  rw [iterations, pure_bind]
  exact congrArg pure joined

end Shows

end Shows

end Template

end NoteTemplate
