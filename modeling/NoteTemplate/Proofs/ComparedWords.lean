import NoteTemplate.Proofs.ConditionMeaning

/-!
# Comparisons of two words

A condition that compares two words is judged by the values that these stand for, whether they are
literals or bound, and however much white space there is around them (`judgedAs_iff`). Where values
are equal and ordered as integers are, each of the six comparisons is the relation of these integers
(`Comparison.holds_of_compare`), and such relations fit together (`consistent_relates`).
-/

namespace NoteTemplate.Template

open Text (isBlank)

/-! ## Words and their values -/

section Words

variable {lookup : Lookup} {left right : List Char} {sign : Comparison} {value other : Value}

/-- A word stands for a value: it spells the value, or it spells none and is bound to the value. -/
structure StandsFor (lookup : Lookup) (word : List Char) (value : Value) : Prop where
  /-- The word is no keyword and holds nothing that would end it. -/
  spelled : (Term.word word).SpelledAs word
  /-- It is a literal, or a path that leads to the value. -/
  found : literal? word = some value ∨
    literal? word = none ∧ lookup (String.ofList word) = some value

/-- An operand has the value that its word stands for. -/
theorem StandsFor.value_eq {word : List Char} (stands : StandsFor lookup word value) :
    (Operand.word word).value lookup = value := by
  rcases stands.found with literal | ⟨noLiteral, bound⟩
  · rw [Operand.value, literal, Option.getD_some]
  · rw [Operand.value, noLiteral, Option.getD_none, bound, Option.getD_some]

/-- A text compares two words. There may be white space in front of every part and behind the
last. -/
def Compares (left : List Char) (sign : Comparison) (right text : List Char) : Prop :=
  ∃ front before after behind : List Char,
    (∀ c ∈ front ++ before ++ after ++ behind, isBlank c = true) ∧
      text = front ++ (left ++ (before ++ (sign.spelling ++ (after ++ (right ++ behind)))))

/-- White space that is no part of a word may be followed by more that is none. -/
theorem EndsWord.behind_gap {gap rest : List Char} (blank : ∀ c ∈ gap, isBlank c = true)
    (ends : EndsWord rest) : EndsWord (gap ++ rest) := by
  cases gap with
  | nil => exact ends
  | cons c gap =>
    have here : StartsBlank (c :: gap ++ rest) := by
      rintro _ ⟨⟩
      exact blank c List.mem_cons_self
    exact here.endsWord

/-- A comparison sign is no part of a word. -/
theorem endsWord_spelling (sign : Comparison) (rest : List Char) :
    EndsWord (sign.spelling ++ rest) := by
  intro c first
  cases sign <;> cases first <;> rfl

/-- Neither white space nor a word goes on a comparison sign. -/
theorem head?_ne_equals {gap word : List Char} (blank : ∀ c ∈ gap, isBlank c = true)
    (spelled : (Term.word word).SpelledAs word) (rest : List Char) :
    (gap ++ (word ++ rest)).head? ≠ some '=' := by
  intro equals
  have member : '=' ∈ gap ∨ '=' ∈ word := by
    cases spelled with
    | word nonempty _ _ =>
      obtain ⟨c, word, rfl⟩ := List.exists_cons_of_ne_nil nonempty
      cases gap with
      | nil =>
        cases equals
        exact .inr List.mem_cons_self
      | cons d gap =>
        cases equals
        exact .inl List.mem_cons_self
  rcases member with inGap | inWord
  · exact absurd (blank '=' inGap) (by decide)
  · cases spelled with
    | word _ letters _ => exact absurd (letters '=' inWord) (by decide)

/-- Two words and a comparison sign are read from a text that compares the words. -/
theorem Compares.terms {text : List Char} (compares : Compares left sign right text)
    (spelledLeft : (Term.word left).SpelledAs left)
    (spelledRight : (Term.word right).SpelledAs right) :
    terms text = .ok [.word left, .sign sign, .word right] := by
  obtain ⟨front, before, after, behind, blank, rfl⟩ := compares
  simp only [List.forall_mem_append] at blank
  obtain ⟨⟨⟨frontBlank, beforeBlank⟩, afterBlank⟩, behindBlank⟩ := blank
  have nothing : Template.terms behind = .ok [] := terms_of_writesOut (.nil behindBlank)
  have ends : EndsWord behind := by
    have atEnd : EndsWord (behind ++ []) := .behind_gap behindBlank nofun
    rwa [List.append_nil] at atEnd
  have last : Template.terms (after ++ (right ++ behind)) = .ok [.word right] := by
    rw [terms_blank afterBlank]
    exact terms_word spelledRight ends nothing
  have compared : Template.terms (sign.spelling ++ (after ++ (right ++ behind))) =
      .ok [.sign sign, .word right] :=
    terms_sign sign (head?_ne_equals afterBlank spelledRight behind) last
  have apart : EndsWord (before ++ (sign.spelling ++ (after ++ (right ++ behind)))) :=
    .behind_gap beforeBlank (endsWord_spelling sign _)
  rw [terms_blank frontBlank]
  apply terms_word spelledLeft apart
  rw [terms_blank beforeBlank]
  exact compared

/-- A comparison of two words is judged by the values that they stand for. -/
theorem judge_compared {text : String} (compares : Compares left sign right text.toList)
    (standsLeft : StandsFor lookup left value) (standsRight : StandsFor lookup right other) :
    judge lookup text = .ok (sign.holds value other) := by
  let condition : StructuredCondition :=
    ⟨0, ⟨⟨.compared (.word left) sign (.word right), []⟩, []⟩⟩
  have read := compares.terms standsLeft.spelled standsRight.spelled
  have judged := judgeTerms_terms lookup condition
  have meaning : condition.holds lookup = sign.holds value other := by
    simp [condition, StructuredCondition.holds, Negated.holds, Joined.parts, Atom.holds,
      standsLeft.value_eq, standsRight.value_eq]
  rw [judge, read]
  exact judged.trans (congrArg Except.ok meaning)

/-- Every comparison of two words, however it is written, has its outcome. -/
def JudgedAs (lookup : Lookup) (left right : List Char) (outcome : Comparison → Bool) : Prop :=
  ∀ (sign : Comparison) (text : String), Compares left sign right text.toList →
    judge lookup text = .ok (outcome sign)

/-- Two words are compared as the values that they stand for, and in no other way. -/
theorem judgedAs_iff {outcome : Comparison → Bool} (standsLeft : StandsFor lookup left value)
    (standsRight : StandsFor lookup right other) :
    JudgedAs lookup left right outcome ↔ ∀ sign, sign.holds value other = outcome sign := by
  constructor
  · intro judged sign
    have written : Compares left sign right
        (String.ofList (left ++ (sign.spelling ++ right))).toList := by
      refine ⟨[], [], [], [], nofun, ?_⟩
      simp
    have holds := judge_compared written standsLeft standsRight
    rw [judged sign _ written] at holds
    exact (Except.ok.inj holds).symm
  · intro same sign text compares
    rw [judge_compared compares standsLeft standsRight, same]

end Words

/-! ## Comparisons as relations -/

section Relations

/-- The relation of integers that a comparison names. -/
def Comparison.relates : Comparison → Int → Int → Bool
  | .equal, left, right => decide (left = right)
  | .unequal, left, right => decide (left ≠ right)
  | .atLeast, left, right => decide (right ≤ left)
  | .atMost, left, right => decide (left ≤ right)
  | .greater, left, right => decide (right < left)
  | .less, left, right => decide (left < right)

/-- A comparison by order. -/
def Comparison.isOrdering : Comparison → Bool
  | .equal | .unequal => false
  | _ => true

variable {left right : Value} {number other : Int}

/-- Values that are ordered as integers are compared by order as these. -/
theorem Comparison.holds_of_ordered {sign : Comparison} (ordering : sign.isOrdering = true)
    (ordered : compareValues left right = some (compare number other)) :
    sign.holds left right = sign.relates number other := by
  cases sign with
  | equal | unequal => cases ordering
  | atLeast =>
    rw [Comparison.holds, ordered, Option.any_some, Comparison.relates, Bool.eq_iff_iff,
      Std.isGE_compare, decide_eq_true_eq]
  | atMost =>
    rw [Comparison.holds, ordered, Option.any_some, Comparison.relates, Bool.eq_iff_iff,
      Std.isLE_compare, decide_eq_true_eq]
  | greater =>
    rw [Comparison.holds, ordered, Option.any_some, Comparison.relates, Bool.eq_iff_iff,
      Ordering.isGT_iff_eq_gt, Int.compare_eq_gt, decide_eq_true_eq]
  | less =>
    rw [Comparison.holds, ordered, Option.any_some, Comparison.relates, Bool.eq_iff_iff,
      Ordering.isLT_iff_eq_lt, Int.compare_eq_lt, decide_eq_true_eq]

/-- Values that are equal and ordered as integers are compared as these. -/
theorem Comparison.holds_of_compare (sign : Comparison)
    (equal : valuesEqual left right = decide (number = other))
    (ordered : compareValues left right = some (compare number other)) :
    sign.holds left right = sign.relates number other := by
  cases sign with
  | equal => exact equal
  | unequal => rw [Comparison.holds, equal, Comparison.relates, decide_not]
  | atLeast | atMost | greater | less => exact Comparison.holds_of_ordered rfl ordered

/-- Integers in one order are related in one way. -/
theorem Comparison.relates_congr (sign : Comparison) {first second : Int}
    (same : compare number other = compare first second) :
    sign.relates number other = sign.relates first second := by
  have equal : number = other ↔ first = second := by
    rw [← Int.compare_eq_eq, same, Int.compare_eq_eq]
  have less : number < other ↔ first < second := by
    rw [← Int.compare_eq_lt, same, Int.compare_eq_lt]
  have greater : other < number ↔ second < first := by
    rw [← Int.compare_eq_gt, same, Int.compare_eq_gt]
  have atMost : number ≤ other ↔ first ≤ second := by omega
  have atLeast : other ≤ number ↔ second ≤ first := by omega
  cases sign <;> simp only [Comparison.relates, ne_eq, equal, less, greater, atMost, atLeast]

/-- The outcomes of comparing two values fit together: exactly one of less, equal and greater holds,
and the other comparisons are made up of these. -/
structure Consistent (outcome : Comparison → Bool) : Prop where
  /-- One of the three holds. -/
  one : outcome .less || outcome .equal || outcome .greater
  /-- No two of them hold. -/
  apart : ¬ (outcome .less ∧ outcome .equal) ∧ ¬ (outcome .less ∧ outcome .greater) ∧
    ¬ (outcome .equal ∧ outcome .greater)
  /-- At most is less or equal. -/
  atMost : outcome .atMost = (outcome .less || outcome .equal)
  /-- At least is greater or equal. -/
  atLeast : outcome .atLeast = (outcome .greater || outcome .equal)
  /-- Unequal is not equal. -/
  unequal : outcome .unequal = !outcome .equal

/-- The relations of two integers fit together. -/
theorem consistent_relates (number other : Int) :
    Consistent fun sign => sign.relates number other := by
  constructor
  · simp only [Comparison.relates, Bool.or_eq_true, decide_eq_true_eq]
    omega
  · simp only [Comparison.relates, decide_eq_true_eq]
    omega
  · rw [Bool.eq_iff_iff]
    simp only [Comparison.relates, Bool.or_eq_true, decide_eq_true_eq]
    omega
  · rw [Bool.eq_iff_iff]
    simp only [Comparison.relates, Bool.or_eq_true, decide_eq_true_eq]
    omega
  · simp only [Comparison.relates, ne_eq, decide_not]

end Relations

end NoteTemplate.Template
