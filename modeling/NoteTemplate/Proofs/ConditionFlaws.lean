import Mathlib.Data.Set.List
import NoteTemplate.Proofs.ConditionMeaning

/-!
# Flaws of conditions

What is wrong with a condition can be read off its terms (`flaws`), and there is nothing wrong
exactly when the terms are those of a structured condition. What is looked up decides only which
flaw is met: parts are judged from left to right, and a flaw is met when no part before it, on its
own level and on the level above, has decided. So a condition fails to be judged exactly when a
flaw is met (`judge_faults_iff_met`). A flaw with nothing before it is met whatever is looked up,
and one behind other parts can go unnoticed.
-/

namespace NoteTemplate.Template

/-- A part of a condition that is judged before a flaw. -/
inductive Passed where
  /-- One of the parts that all have to hold. -/
  | required (part : List Term)
  /-- An alternative. -/
  | alternative (part : List Term)
deriving Repr, DecidableEq

/-- Something that is wrong with a condition. -/
structure Flaw where
  /-- The fault that is reported when the flaw is met. -/
  fault : ConditionFault
  /-- The parts that are judged before. -/
  before : List Passed := []
deriving Repr, DecidableEq

/-- A flaw with one more part before it. -/
def Flaw.behind (part : Passed) (flaw : Flaw) : Flaw := { flaw with before := part :: flaw.before }

/-! ## What is wrong with some terms -/

/-- What is wrong with a term that stands as an operand. -/
def operandFault? : Term → Option ConditionFault
  | .word _ | .quoted _ => none
  | .sign _ => some .signAsOperand
  | .and | .or | .not => some .misplacedKeyword

/-- What is wrong with one operand, or a comparison of two. -/
def comparisonFault? : List Term → Option ConditionFault
  | [] => some .missingOperand
  | [term] => operandFault? term
  | [left, .sign _, right] => (operandFault? left).or (operandFault? right)
  | _ => some .malformedComparison

/-- A flaw of a comparison has nothing before it. -/
def comparisonFlaws (terms : List Term) : List Flaw :=
  (comparisonFault? terms).toList.map fun fault => ⟨fault, []⟩

/-- What is wrong with a part under the negations at its front. -/
def negatedFlaws (inner : List Term → List Flaw) (terms : List Term) : List Flaw :=
  inner (stripNots terms).2

/-- What is wrong with parts that are judged from left to right. -/
def flawsInOrder (passed : List Term → Passed) (inner : List Term → List Flaw) :
    List (List Term) → List Flaw
  | [] => []
  | part :: rest => inner part ++ (flawsInOrder passed inner rest).map (.behind (passed part))

/-- What is wrong with the parts that a keyword joins. An empty one is noticed before any of them
is judged. -/
def joinedFlaws (keyword : Term) (name : String) (passed : List Term → Passed)
    (inner : List Term → List Flaw) (terms : List Term) : List Flaw :=
  let parts := segments keyword terms
  if parts.any List.isEmpty then [⟨.dangling name, []⟩] else flawsInOrder passed inner parts

/-- What is wrong with alternatives. -/
def alternativeFlaws : List Term → List Flaw :=
  joinedFlaws .or "or" .alternative (negatedFlaws comparisonFlaws)

/-- What is wrong with the terms of a whole condition. -/
def termFlaws : List Term → List Flaw :=
  negatedFlaws (joinedFlaws .and "and" .required (negatedFlaws alternativeFlaws))

/-- What is wrong with a condition. -/
def flaws (condition : String) : List Flaw :=
  match terms condition.toList with
  | .error fault => [⟨fault, []⟩]
  | .ok [] => [⟨.empty, []⟩]
  | .ok (term :: rest) => termFlaws (term :: rest)

/-! ## Which flaw is met -/

section Met

variable (lookup : Lookup)

/-- A part leaves the outcome open: one that has to hold does, and an alternative does not. -/
def Passed.IsOpen : Passed → Prop
  | .required part => judgeNegated (judgeAlternatives lookup) part = .ok true
  | .alternative part => judgeNegated (judgeComparison lookup) part = .ok false

/-- A flaw is met when all parts before it leave the outcome open. -/
def Flaw.IsMet (flaw : Flaw) : Prop := ∀ part ∈ flaw.before, part.IsOpen lookup

/-- A fault is that of a flaw that is met. -/
def Reported (flaws : List Flaw) (fault : ConditionFault) : Prop :=
  ∃ flaw ∈ flaws, flaw.fault = fault ∧ flaw.IsMet lookup

/-- Terms are judged unless a flaw is met, and then its fault is reported. -/
def Reports (judge : List Term → Except ConditionFault Bool) (inner : List Term → List Flaw) :
    Prop :=
  ∀ terms fault, judge terms = .error fault ↔ Reported lookup (inner terms) fault

variable {lookup} {rule : List Term → Except ConditionFault Bool} {inner : List Term → List Flaw}
  {fault : ConditionFault}

/-- Nothing is reported where there are no flaws. -/
theorem not_reported_nil : ¬ Reported lookup [] fault := by
  rintro ⟨flaw, member, -⟩
  exact absurd member List.not_mem_nil

/-- A flaw with nothing before it is met. -/
theorem reported_singleton {other : ConditionFault} :
    Reported lookup [⟨other, []⟩] fault ↔ other = fault := by
  constructor
  · rintro ⟨flaw, member, same, -⟩
    obtain rfl := List.mem_singleton.1 member
    exact same
  · intro same
    exact ⟨_, List.mem_singleton_self _, same, fun part member => absurd member List.not_mem_nil⟩

/-- A failure is reported as a flaw with nothing before it. -/
theorem error_iff_reported {other : ConditionFault} :
    (.error other : Except ConditionFault Bool) = .error fault ↔
      Reported lookup [⟨other, []⟩] fault :=
  (Iff.of_eq (Except.error.injEq other fault)).trans reported_singleton.symm

/-- A flaw of two lists is one of the first or of the second. -/
theorem reported_append {first second : List Flaw} :
    Reported lookup (first ++ second) fault ↔
      Reported lookup first fault ∨ Reported lookup second fault := by
  simp only [Reported, List.mem_append, or_and_right, exists_or]

/-- A flaw behind a part is met when the part leaves the outcome open and the flaw is met behind
it. -/
theorem reported_behind {part : Passed} {listed : List Flaw} :
    Reported lookup (listed.map (.behind part)) fault ↔
      part.IsOpen lookup ∧ Reported lookup listed fault := by
  constructor
  · rintro ⟨_, member, same, met⟩
    obtain ⟨flaw, inside, rfl⟩ := List.mem_map.1 member
    obtain ⟨here, later⟩ := List.forall_mem_cons.1 met
    exact ⟨here, flaw, inside, same, later⟩
  · rintro ⟨here, flaw, inside, same, later⟩
    exact ⟨flaw.behind part, List.mem_map_of_mem inside, same, List.forall_mem_cons.2 ⟨here, later⟩⟩

/-- A sequence fails when its first part does, or its second part behind a result of the first. -/
theorem bind_eq_error_iff {ε α β : Type} {first : Except ε α} {next : α → Except ε β} {error : ε} :
    first >>= next = .error error ↔
      first = .error error ∨ ∃ value, first = .ok value ∧ next value = .error error := by
  cases first <;> simp [bind, Except.bind]

/-- Whether an operand has a value does not depend on what is looked up. -/
theorem operand_eq_error_iff {term : Term} :
    operand lookup term = .error fault ↔ operandFault? term = some fault := by
  cases term <;> simp [operand, operandFault?]

/-- A term with nothing wrong has a value. -/
theorem operand_eq_ok_iff {term : Term} :
    (∃ value, operand lookup term = .ok value) ↔ operandFault? term = none := by
  cases term <;> simp [operand, operandFault?]

/-- Whether operands and comparisons are judged does not depend on what is looked up. -/
theorem judgeComparison_eq_error_iff {terms : List Term} :
    judgeComparison lookup terms = .error fault ↔ comparisonFault? terms = some fault := by
  unfold judgeComparison
  split
  · simp [comparisonFault?]
  · rename_i term
    simp [comparisonFault?, bind_eq_error_iff, operand_eq_error_iff, pure, Except.pure]
  · rename_i left comparison right
    have result : (∃ value, operand lookup left = .ok value ∧ operandFault? right = some fault) ↔
        operandFault? left = none ∧ operandFault? right = some fault := by
      rw [exists_and_right, operand_eq_ok_iff]
    rw [comparisonFault?, Option.or_eq_some_iff, ← result]
    simp [bind_eq_error_iff, operand_eq_error_iff, pure, Except.pure]
  · rename_i none one two
    rw [comparisonFault?]
    · simp
    all_goals assumption

/-- Operands and comparisons report their flaws. -/
theorem reports_comparison : Reports lookup (judgeComparison lookup) comparisonFlaws := by
  intro terms fault
  rw [judgeComparison_eq_error_iff, comparisonFlaws]
  cases comparisonFault? terms with
  | none => exact ⟨nofun, fun reported => absurd reported not_reported_nil⟩
  | some other => exact Option.some_inj.trans reported_singleton.symm

/-- Negations in front of a part do not change its flaws. -/
theorem Reports.negated (reports : Reports lookup rule inner) :
    Reports lookup (judgeNegated rule) (negatedFlaws inner) := by
  intro terms fault
  unfold negatedFlaws judgeNegated
  rw [← reports]
  rcases stripNots terms with ⟨negated, rest⟩
  dsimp only
  cases rule rest with
  | ok outcome => simp
  | error other => rfl

/-- Parts that are judged in order report their flaws, given when a part leaves the outcome
open. -/
theorem Reports.inOrder (reports : Reports lookup rule inner) {passed : List Term → Passed}
    {decisive : Bool}
    (leaves : ∀ part, (passed part).IsOpen lookup ↔ rule part = .ok (!decisive))
    (parts : List (List Term)) :
    judgeUntil decisive rule parts = .error fault ↔
      Reported lookup (flawsInOrder passed inner parts) fault := by
  induction parts with
  | nil => exact ⟨nofun, fun reported => absurd reported not_reported_nil⟩
  | cons part rest ih =>
    rw [flawsInOrder, reported_append, reported_behind, leaves, ← reports, ← ih, judgeUntil]
    cases rule part with
    | error other => simp
    | ok outcome => cases outcome <;> cases decisive <;> simp

/-- Parts that a keyword joins report their flaws. -/
theorem Reports.joined (reports : Reports lookup rule inner) {passed : List Term → Passed}
    {decisive : Bool}
    (leaves : ∀ part, (passed part).IsOpen lookup ↔ rule part = .ok (!decisive))
    (keyword : Term) (name : String) :
    Reports lookup (judgeJoined keyword name decisive rule)
      (joinedFlaws keyword name passed inner) := by
  intro terms fault
  unfold judgeJoined joinedFlaws
  dsimp only
  split
  · exact error_iff_reported
  · exact reports.inOrder leaves _

/-- The terms of a condition report their flaws. -/
theorem reports_terms : Reports lookup (judgeTerms lookup) termFlaws := by
  have alternatives : Reports lookup (judgeAlternatives lookup) alternativeFlaws :=
    reports_comparison.negated.joined (fun part => Iff.rfl) .or "or"
  exact (alternatives.negated.joined (fun part => Iff.rfl) .and "and").negated

/-- A condition reports its flaws. -/
theorem judge_eq_error_iff {condition : String} :
    judge lookup condition = .error fault ↔ Reported lookup (flaws condition) fault := by
  unfold judge flaws
  cases terms condition.toList with
  | error other => exact error_iff_reported
  | ok read =>
    cases read with
    | nil => exact error_iff_reported
    | cons term rest => exact reports_terms _ _

end Met

/-! ## Conditions without flaws -/

section Flawless

variable {α : Type} {inner : List Term → List Flaw} {write : α → List Term} {keyword : Term}

/-- Terms that do not start with a negation have no flaws exactly when they are those of a part. -/
def Exact (inner : List Term → List Flaw) (write : α → List Term) : Prop :=
  ∀ terms, terms.head? ≠ some .not → (inner terms = [] ↔ ∃ part, terms = write part)

/-- A term stands as an operand when nothing is wrong with it. -/
theorem operandFault?_eq_none_iff {term : Term} :
    operandFault? term = none ↔ ∃ subject : Operand, term = subject.term := by
  constructor
  · intro none
    cases term with
    | word text => exact ⟨.word text, rfl⟩
    | quoted text => exact ⟨.quoted text, rfl⟩
    | sign | and | or | not => cases none
  · rintro ⟨subject, rfl⟩
    cases subject <;> rfl

/-- The comparisons without flaws are those of atoms. -/
theorem exact_comparison : Exact comparisonFlaws Atom.terms := by
  intro terms _
  have faultless : comparisonFlaws terms = [] ↔ comparisonFault? terms = none := by
    unfold comparisonFlaws
    cases comparisonFault? terms <;> simp
  rw [faultless]
  constructor
  · intro none
    unfold comparisonFault? at none
    split at none
    · cases none
    · obtain ⟨subject, rfl⟩ := operandFault?_eq_none_iff.1 none
      exact ⟨.truth subject, rfl⟩
    · obtain ⟨noneLeft, noneRight⟩ := Option.or_eq_none_iff.1 none
      obtain ⟨left, rfl⟩ := operandFault?_eq_none_iff.1 noneLeft
      obtain ⟨right, rfl⟩ := operandFault?_eq_none_iff.1 noneRight
      exact ⟨.compared left _ right, rfl⟩
    · cases none
  · rintro ⟨atom, rfl⟩
    cases atom with
    | truth subject => exact operandFault?_eq_none_iff.2 ⟨subject, rfl⟩
    | compared left sign right =>
      exact Option.or_eq_none_iff.2 ⟨operandFault?_eq_none_iff.2 ⟨left, rfl⟩,
        operandFault?_eq_none_iff.2 ⟨right, rfl⟩⟩

/-- Terms are the negations at their front and what those negate. -/
theorem stripNots_eq (terms : List Term) :
    (∃ nots, terms = List.replicate nots .not ++ (stripNots terms).2) ∧
      (stripNots terms).2.head? ≠ some .not := by
  induction terms with
  | nil => exact ⟨⟨0, rfl⟩, nofun⟩
  | cons term rest ih =>
    by_cases negation : term = .not
    · subst negation
      obtain ⟨⟨nots, same⟩, stops⟩ := ih
      refine ⟨⟨nots + 1, ?_⟩, stops⟩
      rw [List.replicate_succ, List.cons_append]
      exact congrArg _ same
    · have whole : (stripNots (term :: rest)).2 = term :: rest :=
        congrArg Prod.snd (stripNots_replicate 0 negation rest)
      rw [whole]
      exact ⟨⟨0, rfl⟩, fun first => negation (Option.some.inj first)⟩

/-- Parts with negations in front have no flaws exactly when the parts have none. -/
theorem Exact.negated (exact : Exact inner write)
    (opens : ∀ part, ∃ term rest, write part = term :: rest ∧ term ≠ .not) (terms : List Term) :
    negatedFlaws inner terms = [] ↔ ∃ negated : Negated α, terms = negated.terms write := by
  constructor
  · intro none
    obtain ⟨⟨nots, same⟩, stops⟩ := stripNots_eq terms
    obtain ⟨part, written⟩ := (exact _ stops).1 none
    exact ⟨⟨nots, part⟩, by rw [same, written]; rfl⟩
  · rintro ⟨negated, rfl⟩
    obtain ⟨term, rest, written, other⟩ := opens negated.part
    have stripped : (stripNots (negated.terms write)).2 = write negated.part := by
      rw [Negated.terms, written, stripNots_replicate _ other]
    unfold negatedFlaws
    rw [stripped]
    refine (exact _ ?_).2 ⟨negated.part, rfl⟩
    rw [written]
    exact fun first => other (Option.some.inj first)

/-- Parts in order have no flaws exactly when none of them has one. -/
theorem flawsInOrder_eq_nil_iff {passed : List Term → Passed} {parts : List (List Term)} :
    flawsInOrder passed inner parts = [] ↔ ∀ part ∈ parts, inner part = [] := by
  induction parts with
  | nil => exact ⟨fun _ => nofun, fun _ => rfl⟩
  | cons part rest ih =>
    rw [flawsInOrder, List.append_eq_nil_iff, List.map_eq_nil_iff, ih, List.forall_mem_cons]

/-- There is a stretch of terms even if there are no terms. -/
theorem segments_ne_nil (keyword : Term) (terms : List Term) : segments keyword terms ≠ [] := by
  cases terms with
  | nil => exact List.cons_ne_nil _ _
  | cons term rest =>
    unfold segments
    split
    · exact List.cons_ne_nil _ _
    · split <;> exact List.cons_ne_nil _ _

/-- Terms are the stretches between the occurrences of a keyword, with the keyword between them. -/
theorem intercalate_segments (keyword : Term) (terms : List Term) :
    [keyword].intercalate (segments keyword terms) = terms := by
  induction terms with
  | nil => rfl
  | cons term rest ih =>
    obtain ⟨first, others, cut⟩ := List.exists_cons_of_ne_nil (segments_ne_nil keyword rest)
    rw [cut] at ih
    unfold segments
    rw [cut]
    split
    · rename_i same
      rw [List.intercalate_cons_cons, ih, same]
      rfl
    · cases others with
      | nil =>
        rw [← ih]
        simp
      | cons next others =>
        rw [← ih]
        simp [List.intercalate_cons_cons]

/-- Parts that a keyword joins have no flaws exactly when the parts have none. -/
theorem Exact.joined (exact : Exact inner write)
    (opens : ∀ part, ∃ term rest, write part = term :: rest ∧ term ≠ .not)
    (negates : keyword ≠ .not) (absent : ∀ part, keyword ∉ write part) (name : String)
    (passed : List Term → Passed) :
    Exact (joinedFlaws keyword name passed (negatedFlaws inner)) (Joined.terms keyword write) := by
  intro terms stops
  unfold joinedFlaws
  dsimp only
  constructor
  · intro none
    split at none
    · cases none
    have written : ∀ part ∈ segments keyword terms, ∃ negated : Negated α,
        part = negated.terms write := fun part member =>
      (exact.negated opens part).1 (flawsInOrder_eq_nil_iff.1 none part member)
    have whole := intercalate_segments keyword terms
    obtain ⟨first, others, cut⟩ := List.exists_cons_of_ne_nil (segments_ne_nil keyword terms)
    rw [cut] at written whole
    obtain ⟨⟨⟨nots, part⟩, rfl⟩, later⟩ := List.forall_mem_cons.1 written
    have behind : others ∈ Set.range (List.map (Negated.terms write)) := by
      rw [Set.range_list_map]
      exact fun part member => (later part member).imp fun _ same => same.symm
    obtain ⟨others, rfl⟩ := behind
    -- a negation in front of the first part would stand in front of all terms
    obtain rfl : nots = 0 := by
      cases nots with
      | zero => rfl
      | succ nots =>
        refine absurd ?_ stops
        rw [← whole, Negated.terms, List.replicate_succ]
        cases others <;> simp [List.intercalate_cons_cons]
    exact ⟨⟨part, others⟩, whole.symm⟩
  · rintro ⟨joined, rfl⟩
    have cut : segments keyword (joined.terms keyword write) =
        joined.parts.map (Negated.terms write) := by
      refine segments_intercalate (by simp [Joined.parts]) fun terms member => ?_
      obtain ⟨part, _, rfl⟩ := List.mem_map.1 member
      exact part.notMem_terms negates absent
    have full : (joined.parts.map (Negated.terms write)).any List.isEmpty = false := by
      rw [List.any_map, List.any_eq_false]
      intro part _
      obtain ⟨term, rest, same, -⟩ := opens part.part
      simp [Negated.terms, same]
    rw [cut, full]
    refine flawsInOrder_eq_nil_iff.2 fun terms member => ?_
    obtain ⟨part, -, rfl⟩ := List.mem_map.1 member
    exact (exact.negated opens _).2 ⟨part, rfl⟩

/-- A condition has no flaws exactly when its terms are those of a structured condition. -/
theorem flaws_eq_nil_iff {condition : String} :
    flaws condition = [] ↔
      ∃ structured : StructuredCondition, terms condition.toList = .ok structured.terms := by
  have orNegates : Term.or ≠ .not := by decide
  have andNegates : Term.and ≠ .not := by decide
  have orApart := notMem_atom (show Term.or ∈ _ by decide)
  have andApart : ∀ joined : Joined Atom, Term.and ∉ joined.terms .or Atom.terms :=
    Joined.notMem_terms (by decide) andNegates (notMem_atom (by decide))
  have atoms := judged_atom fun _ => none
  have alternatives := atoms.joined orNegates orApart "or" true
  have wholes := alternatives.joined andNegates andApart "and" false
  have exactly : ∀ read, termFlaws read = [] ↔ ∃ structured : StructuredCondition,
      read = structured.terms :=
    ((exact_comparison.joined atoms.opens orNegates orApart "or" .alternative).joined
      alternatives.opens andNegates andApart "and" .required).negated wholes.opens
  unfold flaws
  cases terms condition.toList with
  | error fault => exact ⟨nofun, fun ⟨_, same⟩ => nomatch same⟩
  | ok read =>
    cases read with
    | nil =>
      refine ⟨nofun, fun ⟨structured, same⟩ => ?_⟩
      exact absurd (Except.ok.inj same).symm (wholes.terms_ne_nil structured)
    | cons term rest =>
      refine (exactly (term :: rest)).trans ?_
      simp only [Except.ok.injEq]

end Flawless

/-- What is wrong with a condition is told by its terms: there is nothing exactly when they are
those of a structured condition. A fault is reported exactly when a flaw with that fault is met,
that is when the parts before the flaw, which are judged first, leave the outcome open. So the data
makes no difference to a condition without flaws, nor to one with no parts before its flaws, but it
can decide whether a flaw behind other parts is reported. -/
theorem judge_faults (condition : String) :
    (flaws condition = [] ↔
      ∃ structured : StructuredCondition, terms condition.toList = .ok structured.terms) ∧
    (∀ lookup fault, judge lookup condition = .error fault ↔
      ∃ flaw ∈ flaws condition, flaw.fault = fault ∧ flaw.IsMet lookup) ∧
    ((∀ flaw ∈ flaws condition, flaw.before = []) → ∀ first second fault,
      judge first condition = .error fault ↔ judge second condition = .error fault) := by
  refine ⟨flaws_eq_nil_iff, fun lookup fault => judge_eq_error_iff, fun early => ?_⟩
  have always : ∀ flaw ∈ flaws condition, ∀ lookup, flaw.IsMet lookup := by
    intro flaw member lookup part before
    rw [early flaw member] at before
    exact absurd before List.not_mem_nil
  have meets : ∀ first second fault, judge first condition = .error fault →
      judge second condition = .error fault := by
    intro first second fault failed
    obtain ⟨flaw, member, same, -⟩ := judge_eq_error_iff.1 failed
    exact judge_eq_error_iff.2 ⟨flaw, member, same, always flaw member second⟩
  exact fun first second fault => ⟨meets first second fault, meets second first fault⟩

/-- A comparison that is malformed and stands in front of everything else is met in every scope. -/
theorem judge_faults_early :
    flaws "a b and c == d" = [⟨.malformedComparison, []⟩] ∧
      ∀ first second fault, judge first "a b and c == d" = .error fault ↔
        judge second "a b and c == d" = .error fault := by
  have listed : flaws "a b and c == d" = [⟨.malformedComparison, []⟩] := by decide +kernel
  refine ⟨listed, (judge_faults "a b and c == d").2.2 fun flaw member => ?_⟩
  rw [listed] at member
  obtain rfl := List.mem_singleton.1 member
  rfl

example : flaws "off and a b" = [⟨.malformedComparison, [.required [.word "off".toList]]⟩] ∧
    judge (fun _ => some (.bool false)) "off and a b" = .ok false ∧
    judge (fun _ => some (.bool true)) "off and a b" = .error .malformedComparison := by
  decide +kernel

end NoteTemplate.Template
