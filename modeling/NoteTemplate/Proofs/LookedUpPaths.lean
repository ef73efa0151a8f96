import NoteTemplate.Template.Rendering

/-!
# What a template looks up

A node looks up paths: the words of its conditions, the arguments of its call that are not
quoted, the path that it inserts or goes through. What a node does by itself depends on nothing
else of a scope (`judge_congr`, `call_congr`), and a path depends on nothing of the context but
what its first segment is bound to (`Scope.AgreeOff.lookup_eq`).
-/

namespace NoteTemplate

/-- The name that a dotted path starts with. -/
def firstSegment (path : String) : String := (pathSegments path).headD ""

/-- The first of several pieces is shorter than the text that was cut. -/
theorem length_lt_of_splitOn {separator : Char} {text : List Char} :
    ∀ {first second : List Char} {rest : List (List Char)},
      Text.splitOn separator text = first :: second :: rest → first.length < text.length := by
  induction text with
  | nil => simp [Text.splitOn]
  | cons letter text ih =>
    intro first second rest cut
    unfold Text.splitOn at cut
    split at cut
    · obtain ⟨rfl, -⟩ := List.cons.inj cut
      simp
    · split at cut
      · cases cut
      · rename_i piece pieces cutRest
        obtain ⟨rfl, rfl⟩ := List.cons.inj cut
        have shorter := ih cutRest
        simpa using shorter

/-- A name that is its own first segment has no other segments. -/
theorem pathSegments_of_firstSegment {name : String} (whole : firstSegment name = name) :
    pathSegments name = [name] := by
  unfold firstSegment pathSegments at whole
  unfold pathSegments
  cases cut : Text.splitOn '.' name.toList with
  | nil => exact absurd cut (Text.splitOn_ne_nil '.' name.toList)
  | cons first rest =>
    simp only [cut, List.map_cons, List.headD_cons] at whole
    cases rest with
    | nil => simp [whole]
    | cons second rest =>
      have shorter := length_lt_of_splitOn cut
      rw [← whole, String.toList_ofList] at shorter
      omega

namespace Template

section Conditions

variable {lookup other : Lookup}

/-- What a term of a condition looks up, if it is a word. -/
def Term.path? : Term → Option String
  | .word text => some (String.ofList text)
  | _ => none

/-- The words of a condition. There are none if it cannot be cut into terms. -/
def conditionPaths (condition : String) : List String :=
  match terms condition.toList with
  | .ok terms => terms.filterMap Term.path?
  | .error _ => []

/-- An operand depends on the path that it looks up. -/
theorem operand_congr {term : Term}
    (agree : ∀ path, term.path? = some path → lookup path = other path) :
    operand lookup term = operand other term := by
  cases term with
  | word text => simp only [operand, agree (String.ofList text) rfl]
  | _ => rfl

/-- Two ways to judge give the same for every selection of some terms. -/
def JudgeAlike (terms : List Term) (judge twin : List Term → Except ConditionFault Bool) : Prop :=
  ∀ part, part ⊆ terms → judge part = twin part

/-- What is left behind negations consists of the same terms. -/
theorem stripNots_subset (terms : List Term) : (stripNots terms).2 ⊆ terms := by
  fun_induction stripNots terms with
  | case1 rest negated operand same ih =>
    rw [same] at ih
    exact List.subset_cons_of_subset _ ih
  | case2 => exact List.Subset.refl _

/-- The stretches between a keyword consist of the same terms. -/
theorem segments_subset (keyword : Term) (terms : List Term) :
    ∀ part ∈ segments keyword terms, part ⊆ terms := by
  fun_induction segments keyword terms with
  | case1 => simp
  | case2 rest ih =>
    intro part member
    rcases List.mem_cons.1 member with rfl | later
    · exact List.nil_subset _
    · exact List.subset_cons_of_subset _ (ih part later)
  | case3 term rest _ none ih => simp
  | case4 term rest _ first others found ih =>
    rw [found] at ih
    intro part member
    rcases List.mem_cons.1 member with rfl | later
    · exact List.cons_subset_cons _ (ih first List.mem_cons_self)
    · exact List.subset_cons_of_subset _ (ih part (List.mem_cons_of_mem _ later))

namespace JudgeAlike

variable {terms : List Term} {judge twin : List Term → Except ConditionFault Bool}

/-- Negations are judged alike when what they negate is. -/
theorem negated (alike : JudgeAlike terms judge twin) :
    JudgeAlike terms (judgeNegated judge) (judgeNegated twin) := by
  intro part subset
  simp only [judgeNegated]
  rw [alike _ (List.Subset.trans (stripNots_subset part) subset)]

/-- Parts from left to right are judged alike when each is. -/
theorem judgeUntil_eq (decisive : Bool) (parts : List (List Term))
    (alike : ∀ part ∈ parts, judge part = twin part) :
    judgeUntil decisive judge parts = judgeUntil decisive twin parts := by
  induction parts with
  | nil => rfl
  | cons part rest ih =>
    have later := ih fun part member => alike part (List.mem_cons_of_mem _ member)
    simp only [judgeUntil, alike part List.mem_cons_self, later]

/-- Parts that a keyword joins are judged alike when the parts are. -/
theorem joined (alike : JudgeAlike terms judge twin) (keyword : Term) (name : String)
    (decisive : Bool) : JudgeAlike terms (judgeJoined keyword name decisive judge)
      (judgeJoined keyword name decisive twin) := by
  intro part subset
  have parts := judgeUntil_eq decisive (segments keyword part) fun segment member =>
    alike segment (List.Subset.trans (segments_subset keyword part segment member) subset)
  simp only [judgeJoined, parts]

end JudgeAlike

/-- A condition depends on the words that it looks up. -/
theorem judge_congr {condition : String}
    (agree : ∀ path ∈ conditionPaths condition, lookup path = other path) :
    judge lookup condition = judge other condition := by
  unfold judge
  unfold conditionPaths at agree
  cases found : terms condition.toList with
  | error fault => rfl
  | ok terms =>
    rw [found] at agree
    have operands : ∀ term ∈ terms, operand lookup term = operand other term :=
      fun term member => operand_congr fun path word =>
        agree path (List.mem_filterMap.2 ⟨term, member, word⟩)
    have comparisons : JudgeAlike terms (judgeComparison lookup) (judgeComparison other) := by
      intro part subset
      unfold judgeComparison
      split
      · rfl
      · rename_i term
        rw [operands term (subset (by simp))]
      · rename_i left comparison right
        rw [operands left (subset (by simp)), operands right (subset (by simp))]
      · rfl
    have whole := ((comparisons.negated.joined .or "or" true).negated.joined .and "and"
      false).negated
    cases terms with
    | nil => rfl
    | cons term rest => exact whole _ (List.Subset.refl _)

end Conditions

section Calls

variable {lookup other : Lookup}

/-- What an argument of a call looks up, unless it is quoted. -/
def Argument.path? (argument : Argument) : Option String :=
  if argument.isQuoted then none else some (String.ofList argument.text)

/-- The arguments of a call that are not quoted. -/
def callPaths (source : String) : List String :=
  (readArguments source.toList).filterMap Argument.path?

/-- An argument depends on the path that it looks up. -/
theorem Argument.value_congr {argument : Argument}
    (agree : ∀ path, argument.path? = some path → lookup path = other path) :
    argument.value lookup = argument.value other := by
  unfold Argument.value
  cases quoted : argument.isQuoted with
  | true => rfl
  | false => rw [agree (String.ofList argument.text) (by simp [Argument.path?, quoted])]

/-- A function depends on the values of its arguments and on how they are written. -/
theorem function_congr {name : String} {needed : Nat}
    {function : Arguments → Except CallFault String}
    (found : function? name = some (needed, function)) {all : List Argument}
    (values : ∀ index, Arguments.value ⟨all, lookup⟩ index = Arguments.value ⟨all, other⟩ index) :
    function ⟨all, lookup⟩ = function ⟨all, other⟩ := by
  have literals : ∀ index,
      Arguments.literal ⟨all, lookup⟩ index = Arguments.literal ⟨all, other⟩ index := fun _ => rfl
  unfold function? at found
  split at found <;> cases found
  · simp only [truncate, Arguments.literalText, values, literals]
  · simp only [dateFormat, Arguments.literalText, values, literals]
  · simp only [tagList, values]
  · simp only [numberFormat, values, literals]
  · simp only [conditional, Arguments.literalText, values, literals]
  · simp only [lengthText, values]
  · simp only [defaultText, Arguments.literalText, values, literals]

/-- A call depends on the arguments that it looks up. -/
theorem call_congr {name source : String}
    (agree : ∀ path ∈ callPaths source, lookup path = other path) :
    call lookup name source = call other name source := by
  unfold call
  cases found : function? name with
  | none => rfl
  | some entry =>
    obtain ⟨needed, function⟩ := entry
    have values : ∀ index, Arguments.value ⟨readArguments source.toList, lookup⟩ index =
        Arguments.value ⟨readArguments source.toList, other⟩ index := by
      intro index
      unfold Arguments.value
      cases here : (readArguments source.toList)[index]? with
      | none => rfl
      | some argument =>
        exact Argument.value_congr fun path written =>
          agree path (List.mem_filterMap.2 ⟨argument, List.mem_of_getElem? here, written⟩)
    simp only [function_congr found values]

end Calls

/-- The paths that a node looks up by itself. -/
def Node.paths : Node → List String
  | .variable path => [path]
  | .call _ source _ => callPaths source
  | .choice branches _ => branches.flatMap fun branch => conditionPaths branch.1
  | .each path _ => [path]
  | _ => []

end Template

/-- Two scopes within the same iterations whose contexts bind all names but some alike. -/
structure Scope.AgreeOff (changed : List String) (scope other : Scope) : Prop where
  /-- The iterations are the same. -/
  frames : scope.frames = other.frames
  /-- Every other name is bound alike. -/
  bound : ∀ name, name ∉ changed → scope.context.get? name = other.context.get? name

namespace Scope.AgreeOff

variable {changed : List String} {scope other : Scope}

/-- A scope agrees with itself. -/
theorem refl (scope : Scope) : scope.AgreeOff changed scope := ⟨rfl, fun _ _ => rfl⟩

/-- Scopes agree inside one more iteration over the same item. -/
theorem enter (agree : scope.AgreeOff changed other) (item : Value) (index : Nat) :
    (scope.enter item index).AgreeOff changed (other.enter item index) :=
  ⟨by simp only [Scope.enter, agree.frames], agree.bound⟩

/-- A path that starts with any other name leads to the same value. -/
theorem lookup_eq (agree : scope.AgreeOff changed other) {path : String}
    (kept : firstSegment path ∉ changed) : scope.lookup path = other.lookup path := by
  have contexts : scope.context.resolve (pathSegments path) =
      other.context.resolve (pathSegments path) := by
    cases segments : pathSegments path with
    | nil => rfl
    | cons first rest =>
      rw [firstSegment, segments] at kept
      simp only [Context.resolve, agree.bound first kept]
  simp only [Scope.lookup, agree.frames, contexts]

end Scope.AgreeOff

end NoteTemplate
