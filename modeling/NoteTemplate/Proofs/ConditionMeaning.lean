import Mathlib.Algebra.Ring.Parity
import NoteTemplate.Template.Condition

/-!
# What conditions mean

A condition has three levels, each with negations in front: the whole, the parts that all have to
hold, and in each of them the alternatives, of which one has to hold. The first part of a level has
no negations of its own, since those in front of it belong to the level above. Written with white
space between its terms, a condition is judged as its structure says, whatever it looks up
(`judge_eq_holds`): reading gives the terms back (`terms_of_writesOut`), and a level is judged well
as soon as its parts are (`Judged.joined`).
-/

namespace NoteTemplate.Template

open Text (isBlank)

/-! ## The structure of conditions -/

/-- What a condition compares, or takes as true or false. -/
inductive Operand where
  /-- A literal or a path. -/
  | word (text : List Char)
  /-- A text between quotes. -/
  | quoted (text : List Char)

/-- A part of a condition in which there is no keyword. -/
inductive Atom where
  /-- An operand that is taken as true or false. -/
  | truth (subject : Operand)
  /-- Two operands that are compared. -/
  | compared (left : Operand) (sign : Comparison) (right : Operand)

/-- A part with the negations in front of it. -/
structure Negated (α : Type) where
  /-- How many negations there are. -/
  nots : Nat
  /-- What they negate. -/
  part : α

/-- Some parts that a keyword joins. -/
structure Joined (α : Type) where
  /-- The first part. Negations in front of it would be negations of the whole. -/
  first : α
  /-- The other parts. -/
  others : List (Negated α)

/-- All parts that a keyword joins. -/
def Joined.parts {α : Type} (joined : Joined α) : List (Negated α) :=
  ⟨0, joined.first⟩ :: joined.others

/-- A condition: negations in front of parts that all have to hold, each of which consists of
alternatives. -/
abbrev StructuredCondition := Negated (Joined (Joined Atom))

section Meaning

variable {α : Type} (lookup : Lookup)

/-- The value of an operand. An unknown path is empty text. -/
def Operand.value : Operand → Value
  | .word text => (literal? text).getD ((lookup (String.ofList text)).getD (.string ""))
  | .quoted text => .string (String.ofList text)

/-- Whether an operand is true, or a comparison is. -/
def Atom.holds : Atom → Bool
  | .truth subject => (subject.value lookup).isTruthy
  | .compared left sign right => sign.holds (left.value lookup) (right.value lookup)

/-- A part behind an odd number of negations holds when it would not by itself. -/
def Negated.holds (means : α → Bool) (negated : Negated α) : Bool :=
  decide (Odd negated.nots) ^^ means negated.part

/-- Whether a condition holds. -/
def StructuredCondition.holds (condition : StructuredCondition) : Bool :=
  Negated.holds (fun whole => whole.parts.all
    (Negated.holds fun alternatives => alternatives.parts.any
      (Negated.holds (Atom.holds lookup)))) condition

end Meaning

section Terms

variable {α : Type}

/-- The term of an operand. -/
def Operand.term : Operand → Term
  | .word text => .word text
  | .quoted text => .quoted text

/-- The terms of a part without keywords. -/
def Atom.terms : Atom → List Term
  | .truth subject => [subject.term]
  | .compared left sign right => [left.term, .sign sign, right.term]

/-- The terms of a part and of its negations. -/
def Negated.terms (write : α → List Term) (negated : Negated α) : List Term :=
  List.replicate negated.nots .not ++ write negated.part

/-- The terms of some parts, with a keyword between them. -/
def Joined.terms (keyword : Term) (write : α → List Term) (joined : Joined α) : List Term :=
  [keyword].intercalate (joined.parts.map (Negated.terms write))

/-- The terms of a condition. -/
def StructuredCondition.terms (condition : StructuredCondition) : List Term :=
  Negated.terms (Joined.terms .and (Joined.terms .or Atom.terms)) condition

end Terms

/-! ## How conditions are written -/

/-- The characters of a comparison sign. -/
def Comparison.spelling : Comparison → List Char
  | .equal => ['=', '=']
  | .unequal => ['!', '=']
  | .atLeast => ['>', '=']
  | .atMost => ['<', '=']
  | .greater => ['>']
  | .less => ['<']

/-- The ways to write a term. -/
inductive Term.SpelledAs : Term → List Char → Prop where
  /-- A word is not empty, has no character that would end it, and is no keyword. -/
  | word {text : List Char} (nonempty : text ≠ [])
      (letters : ∀ c ∈ text, isTermCharacter c = true)
      (free : text ∉ ["and".toList, "or".toList, "not".toList]) : SpelledAs (.word text) text
  /-- A text stands between two quotation marks of one kind that does not occur in it. -/
  | quoted {mark : Char} {text : List Char} (isMark : isQuote mark = true)
      (free : mark ∉ text) : SpelledAs (.quoted text) (mark :: (text ++ [mark]))
  /-- A comparison is written as its sign. -/
  | sign (comparison : Comparison) : SpelledAs (.sign comparison) comparison.spelling
  /-- The keyword of parts that all have to hold. -/
  | and : SpelledAs .and "and".toList
  /-- The keyword of alternatives. -/
  | or : SpelledAs .or "or".toList
  /-- The keyword of negations. -/
  | not : SpelledAs .not "not".toList

/-- A text is at its end or goes on with white space. -/
def StartsBlank (text : List Char) : Prop := ∀ c, text.head? = some c → isBlank c = true

/-- A text is at its end or goes on with what is no part of a word. -/
def EndsWord (text : List Char) : Prop := ∀ c, text.head? = some c → isTermCharacter c = false

/-- White space is no part of a word. -/
theorem StartsBlank.endsWord {text : List Char} (blank : StartsBlank text) : EndsWord text := by
  intro c first
  simp [isTermCharacter, blank c first]

/-- A text writes terms with white space between them. There may be more in front of the first term
and behind the last. -/
inductive WritesOut : List Term → List Char → Prop where
  /-- White space writes no terms. -/
  | nil {gap : List Char} (blank : ∀ c ∈ gap, isBlank c = true) : WritesOut [] gap
  /-- A term is set apart from what is written behind it. -/
  | cons {gap word rest : List Char} {term : Term} {terms : List Term}
      (blank : ∀ c ∈ gap, isBlank c = true) (spelled : term.SpelledAs word)
      (apart : StartsBlank rest) (more : WritesOut terms rest) :
      WritesOut (term :: terms) (gap ++ word ++ rest)

/-- More white space in front writes the same terms. -/
theorem WritesOut.indent {written : List Term} {gap text : List Char}
    (blank : ∀ c ∈ gap, isBlank c = true) (writes : WritesOut written text) :
    WritesOut written (gap ++ text) := by
  cases writes with
  | nil more => exact .nil (List.forall_mem_append.2 ⟨blank, more⟩)
  | cons before spelled apart more =>
    rw [← List.append_assoc, ← List.append_assoc]
    exact .cons (List.forall_mem_append.2 ⟨blank, before⟩) spelled apart more

/-- Terms that are spelled are written when a space stands between any two. -/
theorem writesOut_spaced {written : List (Term × List Char)}
    (spelled : ∀ pair ∈ written, pair.1.SpelledAs pair.2) :
    WritesOut (written.map Prod.fst) ([' '].intercalate (written.map Prod.snd)) := by
  have empty : ∀ c ∈ ([] : List Char), isBlank c = true := by simp
  have space : ∀ c ∈ [' '], isBlank c = true := List.all_eq_true.1 rfl
  induction written with
  | nil => exact .nil empty
  | cons pair others ih =>
    obtain ⟨here, later⟩ := List.forall_mem_cons.1 spelled
    have more := ih later
    cases others with
    | nil =>
      have ends : StartsBlank [] := nofun
      simpa using WritesOut.cons empty here ends (.nil empty)
    | cons next others =>
      simp only [List.map_cons, List.intercalate_cons_cons, List.append_assoc]
      refine .cons empty here ?_ (more.indent space)
      rintro c ⟨⟩
      rfl

/-! ## Reading the terms -/

section Reading

variable {gap word rest : List Char} {more : List Term}

/-- White space in front of terms is left out. -/
theorem terms_blank (blank : ∀ c ∈ gap, isBlank c = true) : terms (gap ++ rest) = terms rest := by
  induction gap with
  | nil => rfl
  | cons c gap ih =>
    obtain ⟨here, later⟩ := List.forall_mem_cons.1 blank
    rw [List.cons_append, terms.eq_def]
    dsimp only
    rw [if_pos here]
    exact ih later

/-- A quotation mark is no white space. -/
theorem isBlank_of_isQuote {mark : Char} (isMark : isQuote mark = true) : isBlank mark = false := by
  simp only [isQuote, Bool.or_eq_true, decide_eq_true_eq] at isMark
  rcases isMark with rfl | rfl <;> rfl

/-- A text between quotation marks is read as it is. -/
theorem terms_quoted {mark : Char} {text : List Char} (isMark : isQuote mark = true)
    (free : mark ∉ text) (read : terms rest = .ok more) :
    terms (mark :: (text ++ [mark]) ++ rest) = .ok (.quoted text :: more) := by
  have others : ∀ c ∈ text, (c != mark) = true := by
    intro c member
    rw [bne_iff_ne]
    rintro rfl
    exact free member
  have closed : mark ∈ text ++ [mark] ++ rest := by simp
  have taken : (text ++ [mark] ++ rest).takeWhile (· != mark) = text := by
    rw [List.append_assoc, List.takeWhile_append_of_pos others]
    simp
  have dropped : ((text ++ [mark] ++ rest).dropWhile (· != mark)).drop 1 = rest := by
    rw [List.append_assoc, List.dropWhile_append_of_pos others]
    simp
  rw [List.cons_append, terms.eq_def]
  dsimp only
  rw [if_neg (by simp [isBlank_of_isQuote isMark]), if_pos isMark, if_pos closed, taken, dropped,
    read]

/-- A comparison sign is read as the comparison. -/
theorem terms_sign (comparison : Comparison) (single : rest.head? ≠ some '=')
    (read : terms rest = .ok more) :
    terms (comparison.spelling ++ rest) = .ok (.sign comparison :: more) := by
  cases comparison with
  | greater | less =>
    rw [Comparison.spelling, List.singleton_append, terms.eq_def]
    simp [isBlank, isQuote, isSignCharacter, comparison?, single, read]
  | _ =>
    rw [Comparison.spelling, List.cons_append, List.singleton_append, terms.eq_def]
    simp [isBlank, isQuote, isSignCharacter, comparison?, read]

/-- Characters of words are read as one word, or as the keyword that they spell. -/
theorem terms_letters (nonempty : word ≠ []) (letters : ∀ c ∈ word, isTermCharacter c = true)
    (apart : EndsWord rest) (read : terms rest = .ok more) :
    terms (word ++ rest) = .ok (Term.ofWord word :: more) := by
  obtain ⟨c, word, rfl⟩ := List.exists_cons_of_ne_nil nonempty
  obtain ⟨first, others⟩ := List.forall_mem_cons.1 letters
  simp only [isTermCharacter, Bool.and_eq_true, Bool.not_eq_true'] at first
  obtain ⟨⟨notBlank, notQuote⟩, notSign⟩ := first
  have ends : rest.takeWhile isTermCharacter = [] ∧ rest.dropWhile isTermCharacter = rest := by
    cases rest with
    | nil => exact ⟨rfl, rfl⟩
    | cons next rest =>
      have stops : isTermCharacter next = false := apart next rfl
      exact ⟨List.takeWhile_cons_of_neg (by simp [stops]),
        List.dropWhile_cons_of_neg (by simp [stops])⟩
  rw [List.cons_append, terms.eq_def]
  dsimp only
  rw [if_neg (by simp [notBlank]), if_neg (by simp [notQuote]), if_neg (by simp [notSign]),
    List.takeWhile_append_of_pos others, List.dropWhile_append_of_pos others, ends.1, ends.2, read,
    List.append_nil]

/-- A word that is no keyword is read as it is. -/
theorem terms_word (spelled : (Term.word word).SpelledAs word) (apart : EndsWord rest)
    (read : terms rest = .ok more) : terms (word ++ rest) = .ok (.word word :: more) := by
  cases spelled with
  | word nonempty letters free =>
    have same : Term.ofWord word = .word word := by
      simp only [List.mem_cons, List.not_mem_nil, or_false, not_or] at free
      simp only [Term.ofWord, if_neg free.1, if_neg free.2.1, if_neg free.2.2]
    rw [terms_letters nonempty letters apart read, same]

/-- A term that is set apart from what follows is read. -/
theorem terms_spelled {term : Term} (spelled : term.SpelledAs word) (apart : StartsBlank rest)
    (read : terms rest = .ok more) : terms (word ++ rest) = .ok (term :: more) := by
  cases spelled with
  | word nonempty letters free => exact terms_word (.word nonempty letters free) apart.endsWord read
  | quoted isMark free => exact terms_quoted isMark free read
  | sign comparison =>
    have single : rest.head? ≠ some '=' := by
      intro equals
      cases apart '=' equals
    exact terms_sign comparison single read
  | and => exact terms_letters (by decide) (List.all_eq_true.1 rfl) apart.endsWord read
  | or => exact terms_letters (by decide) (List.all_eq_true.1 rfl) apart.endsWord read
  | not => exact terms_letters (by decide) (List.all_eq_true.1 rfl) apart.endsWord read

/-- What is written is read. -/
theorem terms_of_writesOut {written : List Term} {text : List Char}
    (writes : WritesOut written text) : terms text = .ok written := by
  induction writes with
  | @nil gap blank =>
    have read : terms (gap ++ []) = terms [] := terms_blank blank
    rw [List.append_nil] at read
    rw [read, terms.eq_def]
  | cons blank spelled apart _ ih =>
    rw [List.append_assoc, terms_blank blank]
    exact terms_spelled spelled apart ih

end Reading

/-! ## Judging the levels -/

section Segments

variable {keyword : Term} {part : List Term}

/-- Terms without a keyword are one stretch. -/
theorem segments_of_notMem (absent : keyword ∉ part) : segments keyword part = [part] := by
  induction part with
  | nil => rfl
  | cons term part ih =>
    rw [List.mem_cons, not_or] at absent
    obtain ⟨other, later⟩ := absent
    rw [segments, if_neg (Ne.symm other), ih later]

/-- The terms up to a keyword are a stretch. -/
theorem segments_append (absent : keyword ∉ part) (rest : List Term) :
    segments keyword (part ++ keyword :: rest) = part :: segments keyword rest := by
  induction part with
  | nil => rw [List.nil_append, segments, if_pos rfl]
  | cons term part ih =>
    rw [List.mem_cons, not_or] at absent
    obtain ⟨other, later⟩ := absent
    rw [List.cons_append, segments, if_neg (Ne.symm other), ih later]

/-- Parts that are joined by a keyword are the stretches between its occurrences. -/
theorem segments_intercalate {parts : List (List Term)} (nonempty : parts ≠ [])
    (absent : ∀ part ∈ parts, keyword ∉ part) :
    segments keyword ([keyword].intercalate parts) = parts := by
  induction parts with
  | nil => exact absurd rfl nonempty
  | cons part parts ih =>
    obtain ⟨here, later⟩ := List.forall_mem_cons.1 absent
    cases parts with
    | nil => simpa using segments_of_notMem here
    | cons next parts =>
      rw [List.intercalate_cons_cons, List.append_assoc, List.singleton_append,
        segments_append here, ih (List.cons_ne_nil _ _) later]

/-- What is in no part, and is not what joins the parts, is not in the whole. -/
theorem notMem_intercalate {term : Term} {parts : List (List Term)} (other : term ≠ keyword)
    (absent : ∀ part ∈ parts, term ∉ part) : term ∉ [keyword].intercalate parts := by
  induction parts with
  | nil => simp
  | cons part parts ih =>
    obtain ⟨here, later⟩ := List.forall_mem_cons.1 absent
    cases parts with
    | nil => simpa using here
    | cons next parts =>
      rw [List.intercalate_cons_cons]
      simp only [List.mem_append, List.mem_singleton, not_or]
      exact ⟨⟨here, other⟩, ih later⟩

end Segments

section Levels

variable {α : Type} {judge : List Term → Except ConditionFault Bool} {write : α → List Term}
  {means : α → Bool} {keyword : Term}

/-- A keyword that is in no part is in none with its negations. -/
theorem Negated.notMem_terms (negates : keyword ≠ .not) (absent : ∀ part, keyword ∉ write part)
    (negated : Negated α) : keyword ∉ negated.terms write := by
  intro member
  rcases List.mem_append.1 member with early | late
  · exact negates (List.eq_of_mem_replicate early)
  · exact absent negated.part late

/-- A keyword that is in no part and does not join the parts is not in the whole. -/
theorem Joined.notMem_terms {between : Term} (other : keyword ≠ between) (negates : keyword ≠ .not)
    (absent : ∀ part, keyword ∉ write part) (joined : Joined α) :
    keyword ∉ joined.terms between write := by
  refine notMem_intercalate other fun terms member => ?_
  obtain ⟨part, _, rfl⟩ := List.mem_map.1 member
  exact part.notMem_terms negates absent

/-- All negations in front of other terms are taken off, and it matters whether their number is
odd. -/
theorem stripNots_replicate (nots : Nat) {term : Term} (other : term ≠ .not) (rest : List Term) :
    stripNots (List.replicate nots .not ++ term :: rest) = (decide (Odd nots), term :: rest) := by
  induction nots with
  | zero =>
    rw [List.replicate_zero, List.nil_append, stripNots]
    · rfl
    · rintro rest same
      exact other (List.cons.inj same).1
  | succ nots ih =>
    rw [List.replicate_succ, List.cons_append, stripNots, ih]
    simp only [Nat.odd_add_one, decide_not]

/-- Every part is judged as it means, and opens with a term that is no negation. -/
structure Judged (judge : List Term → Except ConditionFault Bool) (write : α → List Term)
    (means : α → Bool) : Prop where
  /-- The outcome is what the part means. -/
  outcome : ∀ part, judge (write part) = .ok (means part)
  /-- A term that is no negation comes first. -/
  opens : ∀ part, ∃ term rest, write part = term :: rest ∧ term ≠ .not

/-- Parts are judged as they mean behind their negations as well. -/
theorem Judged.negated (judged : Judged judge write means) (negated : Negated α) :
    judgeNegated judge (negated.terms write) = .ok (negated.holds means) := by
  obtain ⟨term, rest, same, other⟩ := judged.opens negated.part
  have stripped : stripNots (negated.terms write) =
      (decide (Odd negated.nots), write negated.part) := by
    rw [Negated.terms, same, stripNots_replicate _ other]
  rw [judgeNegated, stripped]
  simp only [judged.outcome, Negated.holds]
  rw [Bool.xor_comm]

/-- A part with its negations is not empty. -/
theorem Judged.terms_ne_nil (judged : Judged judge write means) (negated : Negated α) :
    negated.terms write ≠ [] := by
  obtain ⟨term, rest, same, -⟩ := judged.opens negated.part
  simp [Negated.terms, same]

/-- Parts that are judged as they mean decide in order, so one with the outcome that decides is
found if there is one. -/
theorem judgeUntil_map (decisive : Bool) (outcome : ∀ part, judge (write part) = .ok (means part))
    (parts : List α) : judgeUntil decisive judge (parts.map write) =
      .ok (parts.any (means · == decisive) == decisive) := by
  induction parts with
  | nil => cases decisive <;> rfl
  | cons part parts ih =>
    rw [List.map_cons, judgeUntil, outcome, ih]
    by_cases decides : means part = decisive
    · simp [decides]
    · have passed : (means part == decisive) = false := beq_false_of_ne decides
      simp only [if_neg decides, List.any_cons, passed, Bool.false_or]

/-- Parts that a keyword joins are judged as they mean together. -/
theorem Judged.joined (judged : Judged judge write means) (negates : keyword ≠ .not)
    (absent : ∀ part, keyword ∉ write part) (name : String) (decisive : Bool) :
    Judged (judgeJoined keyword name decisive (judgeNegated judge)) (Joined.terms keyword write)
      fun joined => joined.parts.any (Negated.holds means · == decisive) == decisive where
  outcome joined := by
    have cut : segments keyword (joined.terms keyword write) =
        joined.parts.map (Negated.terms write) := by
      refine segments_intercalate (by simp [Joined.parts]) fun terms member => ?_
      obtain ⟨part, _, rfl⟩ := List.mem_map.1 member
      exact part.notMem_terms negates absent
    have full : (joined.parts.map (Negated.terms write)).any List.isEmpty = false := by
      rw [List.any_map, List.any_eq_false]
      intro part _
      simp [judged.terms_ne_nil part]
    simp only [judgeJoined, cut, full, Bool.false_eq_true, if_false]
    exact judgeUntil_map decisive judged.negated joined.parts
  opens joined := by
    obtain ⟨term, rest, same, other⟩ := judged.opens joined.first
    have first : Negated.terms write ⟨0, joined.first⟩ = term :: rest := by
      rw [Negated.terms, List.replicate_zero, List.nil_append, same]
    rw [Joined.terms, Joined.parts, List.map_cons, first]
    cases joined.others with
    | nil => exact ⟨term, rest, by simp, other⟩
    | cons next others =>
      rw [List.map_cons, List.intercalate_cons_cons]
      exact ⟨term, _, rfl, other⟩

end Levels

section Conditions

variable (lookup : Lookup)

/-- An operand has its value. -/
theorem operand_term (subject : Operand) :
    operand lookup subject.term = .ok (subject.value lookup) := by
  cases subject <;> rfl

/-- Operands and comparisons are judged as they mean. -/
theorem judged_atom : Judged (judgeComparison lookup) Atom.terms (Atom.holds lookup) where
  outcome atom := by
    cases atom with
    | truth subject =>
      simp only [Atom.terms, judgeComparison, operand_term]
      rfl
    | compared left sign right =>
      simp only [Atom.terms, judgeComparison, operand_term]
      rfl
  opens atom := by
    cases atom with
    | truth subject => exact ⟨_, _, rfl, by cases subject <;> exact nofun⟩
    | compared left _ _ => exact ⟨_, _, rfl, by cases left <;> exact nofun⟩

/-- No keyword is part of an operand or a comparison. -/
theorem notMem_atom {keyword : Term} (isKeyword : keyword ∈ [Term.and, .or, .not]) (atom : Atom) :
    keyword ∉ atom.terms := by
  have plain : ∀ subject : Operand, keyword ≠ subject.term := by
    rintro (_ | _) rfl <;> simp [Operand.term] at isKeyword
  intro member
  cases atom with
  | truth subject => exact plain subject (List.mem_singleton.1 member)
  | compared left sign right =>
    simp only [Atom.terms, List.mem_cons, List.not_mem_nil, or_false] at member
    rcases member with isLeft | rfl | isRight
    · exact plain left isLeft
    · simp at isKeyword
    · exact plain right isRight

/-- The terms of a condition are judged as its structure says. -/
theorem judgeTerms_terms (condition : StructuredCondition) :
    judgeTerms lookup condition.terms = .ok (condition.holds lookup) := by
  have orNegates : Term.or ≠ .not := by decide
  have andNegates : Term.and ≠ .not := by decide
  have orApart := notMem_atom (show Term.or ∈ _ by decide)
  have alternatives := (judged_atom lookup).joined orNegates orApart "or" true
  have andApart : ∀ joined : Joined Atom, Term.and ∉ joined.terms .or Atom.terms :=
    Joined.notMem_terms (by decide) andNegates (notMem_atom (by decide))
  have whole := (alternatives.joined andNegates andApart "and" false).negated condition
  have meaning : StructuredCondition.holds lookup condition = Negated.holds (fun joined =>
      joined.parts.any (Negated.holds (fun joined => joined.parts.any
        (Negated.holds (Atom.holds lookup) · == true) == true) · == false) == false)
      condition := by
    simp [StructuredCondition.holds, List.not_any_eq_all_not]
  rw [meaning]
  exact whole

/-- A condition that is written with white space between its terms is judged as its structure says,
whatever its words are looked up as. -/
theorem judge_eq_holds (condition : StructuredCondition) {text : String}
    (writes : WritesOut condition.terms text.toList) :
    judge lookup text = .ok (condition.holds lookup) := by
  have whole := judgeTerms_terms lookup condition
  have read := terms_of_writesOut writes
  rw [judge, read]
  split
  · rename_i failed
    cases failed
  · rename_i same
    rw [Except.ok.inj same] at whole
    cases whole
  · rename_i same
    rw [Except.ok.inj same] at whole
    exact whole

end Conditions

/-- A condition with negations on every level and with keywords between quotes. -/
def negatedChoice : StructuredCondition :=
  ⟨2, ⟨⟨.truth (.word "a".toList), []⟩,
    [⟨1, ⟨.compared (.quoted "x or y".toList) .equal (.word "b".toList),
      [⟨3, .truth (.quoted "not".toList)⟩]⟩⟩]⟩⟩

/-- The condition is written as its terms, and holds where its first operand does. -/
theorem negatedChoice_judge :
    let text := "not not a and not \"x or y\" == b or not not not 'not'"
    let bound : Lookup := fun path => if path = "a" then some (.bool true) else none
    WritesOut negatedChoice.terms text.toList ∧ judge bound text = .ok true := by
  let written : List (Term × List Char) :=
    [(.not, "not".toList), (.not, "not".toList), (.word "a".toList, "a".toList),
      (.and, "and".toList), (.not, "not".toList),
      (.quoted "x or y".toList, '"' :: ("x or y".toList ++ ['"'])),
      (.sign .equal, ['=', '=']), (.word "b".toList, "b".toList), (.or, "or".toList),
      (.not, "not".toList), (.not, "not".toList), (.not, "not".toList),
      (.quoted "not".toList, '\'' :: ("not".toList ++ ['\'']))]
  have spelled : ∀ pair ∈ written, pair.1.SpelledAs pair.2 := by
    simp only [written, List.forall_mem_cons, List.not_mem_nil, false_implies, implies_true,
      and_true]
    refine ⟨.not, .not, ?_, .and, .not, ?_, .sign .equal, ?_, .or, .not, .not, .not, ?_⟩
    · exact .word (by decide) (List.all_eq_true.1 rfl) (by decide)
    · exact .quoted (by decide) (by decide)
    · exact .word (by decide) (List.all_eq_true.1 rfl) (by decide)
    · exact .quoted (by decide) (by decide)
  have text : "not not a and not \"x or y\" == b or not not not 'not'".toList =
      [' '].intercalate (written.map Prod.snd) := by decide
  have writes := writesOut_spaced spelled
  rw [← text] at writes
  have outcome := judge_eq_holds (fun path => if path = "a" then some (.bool true) else none)
    negatedChoice writes
  refine ⟨writes, outcome.trans (congrArg Except.ok ?_)⟩
  decide +kernel

end NoteTemplate.Template
