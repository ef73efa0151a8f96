import NoteTemplate.Proofs.ComparedWords
import NoteTemplate.Proofs.ReadNumerals
import NoteTemplate.Proofs.WholeDoubles

/-!
# Comparisons of integers

Integers are compared as their doubles are, so what is compared are the integers rounded to
fifty-three binary digits (`Comparison.holds_integers`). Of two different integers that are rounded
to one number a condition says that they are equal; any other two are compared as they are, and so
are all integers up to the fifty-third power of two (`judge_integers`).
-/

namespace NoteTemplate.Template

open Number (roundedInt IsWholeDouble)

/-! ## Integers as words -/

/-- A digit has no other case. -/
theorem toLower_of_isDigit {c : Char} (digit : c.isDigit = true) : c.toLower = c := by
  simp only [Char.isDigit, Bool.and_eq_true, decide_eq_true_eq] at digit
  apply dif_neg
  rintro ⟨letter, -⟩
  exact absurd (UInt32.le_trans letter digit.2) (by decide)

/-- A word that is read as an integer of sixty-four bits is its literal. -/
theorem literal?_of_int64? {word : List Char} {value : Int64}
    (read : Number.int64? word = some value) : literal? word = some (.int value) := by
  obtain ⟨c, rest, rfl, front⟩ := Number.head_of_int64? read
  have lower : c.toLower = c := by
    rcases front with digit | rfl | rfl
    · exact toLower_of_isDigit digit
    · rfl
    · rfl
  have unnamed : ∀ {name : String}, name ∈ ["true", "false", "null", "none"] →
      Text.lowerAscii (c :: rest) ≠ name.toList := by
    intro name member same
    have first : name.toList.head? = some c := by
      rw [← same, Text.lowerAscii, List.map_cons, lower, List.head?_cons]
    have numeral : (c.isDigit || c == '-' || c == '+') = true := by simpa [or_assoc] using front
    have letters : ["true", "false", "null", "none"].all (fun name =>
        name.toList.head?.all fun d => !(d.isDigit || d == '-' || d == '+')) = true := by decide
    have letter := List.all_eq_true.1 letters name member
    rw [first, Option.all_some, numeral] at letter
    cases letter
  have starts : c.isDigit = true ∨ c = '-' ∨ c = '+' ∨ c = '.' := by
    rcases front with digit | minus | plus
    · exact .inl digit
    · exact .inr (.inl minus)
    · exact .inr (.inr (.inl plus))
  unfold literal?
  dsimp only
  rw [if_neg (unnamed (by decide)), if_neg (unnamed (by decide)), if_neg, numberLiteral?,
    if_pos starts, read]
  rintro (null | none)
  · exact unnamed (by decide) null
  · exact unnamed (by decide) none

/-- A digit can be part of a word. -/
theorem isTermCharacter_of_isDigit {c : Char} (digit : c.isDigit = true) :
    isTermCharacter c = true := by
  have range : 48 ≤ c.toNat ∧ c.toNat ≤ 57 := Char.isDigit_iff_toNat.1 digit
  have black : Text.isBlank c = false := by
    simp only [Text.isBlank, Bool.or_eq_false_iff, Bool.and_eq_false_iff,
      decide_eq_false_iff_not, beq_eq_false_iff_ne]
    omega
  have noMark : ∀ mark ∈ ['"', '\'', '=', '!', '<', '>'], c ≠ mark := by
    rintro mark member rfl
    have noDigit : ['"', '\'', '=', '!', '<', '>'].all (! Char.isDigit ·) = true := by decide
    have other := List.all_eq_true.1 noDigit c member
    rw [digit] at other
    cases other
  simp only [List.forall_mem_cons] at noMark
  simp [isTermCharacter, isQuote, isSignCharacter, black, noMark]

/-- The decimal text of an integer stands for the integer. -/
theorem standsFor_integerText (lookup : Lookup) (value : Int64) :
    StandsFor lookup (Number.integerText value.toInt) (.int value) := by
  have read := Number.int64?_integerText value
  have digits : ∀ c ∈ Number.digits value.toInt.natAbs, isTermCharacter c = true :=
    fun c member => isTermCharacter_of_isDigit
      (Nat.isDigit_of_mem_toDigits (by decide) (by decide) member)
  have letters : ∀ c ∈ Number.integerText value.toInt, isTermCharacter c = true := by
    unfold Number.integerText
    split
    · exact List.forall_mem_cons.2 ⟨by decide, digits⟩
    · exact digits
  have unread : ∀ word ∈ [[], "and".toList, "or".toList, "not".toList],
      Number.int64? word = none := by decide
  have named : Number.integerText value.toInt ∉ [[], "and".toList, "or".toList, "not".toList] := by
    intro member
    rw [unread _ member] at read
    cases read
  rw [List.mem_cons, not_or] at named
  exact ⟨.word named.1 letters named.2, .inl (literal?_of_int64? read)⟩

/-! ## The order of integers -/

/-- Doubles that are whole numbers are ordered as these. -/
theorem compareDoubles_eq {left right : Float} {number other : Int}
    (whole : IsWholeDouble left number) (wholes : IsWholeDouble right other) :
    compareDoubles left right = some (compare number other) := by
  have less := whole.lt_iff wholes
  have greater := wholes.lt_iff whole
  have equal := whole.beq_eq wholes
  simp only [compareDoubles, less, greater, equal, beq_iff_eq]
  rcases Int.lt_trichotomy number other with below | rfl | above
  · rw [if_pos below, Int.compare_eq_lt.2 below]
  · rw [if_neg (Int.lt_irrefl _), if_neg (Int.lt_irrefl _), if_pos rfl, Int.compare_eq_eq.2 rfl]
  · rw [if_neg (Int.lt_asymm above), if_pos above, Int.compare_eq_gt.2 above]

/-- Integers are compared as their rounded numbers. -/
theorem Comparison.holds_integers (sign : Comparison) (left right : Int64) :
    sign.holds (.int left) (.int right) =
      sign.relates (roundedInt left.toInt) (roundedInt right.toInt) := by
  have double : ∀ value : Int64,
      IsWholeDouble (Number.ofInt value.toInt) (roundedInt value.toInt) := by
    intro value
    have least := value.le_toInt
    have greatest := value.toInt_lt
    exact Number.isWholeDouble_ofInt (by omega)
  apply Comparison.holds_of_compare
  · change (Number.ofInt left.toInt == Number.ofInt right.toInt) = _
    rw [(double left).beq_eq (double right)]
    rfl
  · change compareDoubles (Number.ofInt left.toInt) (Number.ofInt right.toInt) = _
    exact compareDoubles_eq (double left) (double right)

/-- Two integers are related as their rounded numbers unless they differ and these do not. -/
theorem relates_rounded_iff (number other : Int) :
    (∀ sign : Comparison, sign.relates (roundedInt number) (roundedInt other) =
        sign.relates number other) ↔
      (roundedInt number = roundedInt other → number = other) := by
  constructor
  · intro alike rounded
    have equal := alike .equal
    simp only [Comparison.relates, rounded, decide_true] at equal
    exact of_decide_eq_true equal.symm
  · intro apart sign
    have less : ∀ {first second : Int}, (roundedInt first = roundedInt second → first = second) →
        (roundedInt first < roundedInt second ↔ first < second) := by
      intro first second apart
      constructor
      · intro below
        apply Int.lt_of_not_ge
        intro atLeast
        exact Int.not_le.2 below (Number.roundedInt_mono atLeast)
      · intro below
        have atMost := Number.roundedInt_mono (Int.le_of_lt below)
        have different : roundedInt first ≠ roundedInt second :=
          fun same => Int.ne_of_lt below (apart same)
        omega
    apply sign.relates_congr
    exact Number.compare_congr (less apart) (less fun same => (apart same.symm).symm)

/-- Two integers, bound or written as literals, are compared as their rounded numbers. They are
compared as they are unless they differ and are rounded to one number, which takes one of them above
the fifty-third power of two. -/
theorem judge_integers {lookup : Lookup} {left right : List Char} {number other : Int64}
    (standsLeft : StandsFor lookup left (.int number))
    (standsRight : StandsFor lookup right (.int other)) :
    JudgedAs lookup left right
        (fun sign => sign.relates (roundedInt number.toInt) (roundedInt other.toInt)) ∧
      (JudgedAs lookup left right (fun sign => sign.relates number.toInt other.toInt) ↔
        (roundedInt number.toInt = roundedInt other.toInt → number = other)) ∧
      (number.toInt.natAbs ≤ 2 ^ 53 → other.toInt.natAbs ≤ 2 ^ 53 →
        JudgedAs lookup left right fun sign => sign.relates number.toInt other.toInt) := by
  have exactly : JudgedAs lookup left right (fun sign => sign.relates number.toInt other.toInt) ↔
      (roundedInt number.toInt = roundedInt other.toInt → number = other) := by
    rw [judgedAs_iff standsLeft standsRight, ← Int64.toInt_inj, ← relates_rounded_iff]
    simp only [Comparison.holds_integers]
  refine ⟨?_, exactly, ?_⟩
  · rw [judgedAs_iff standsLeft standsRight]
    intro sign
    exact sign.holds_integers number other
  · intro small smaller
    rw [exactly, Number.roundedInt_eq_self small, Number.roundedInt_eq_self smaller]
    exact Int64.toInt_inj.1

/-- A bound integer above the fifty-third power of two is compared with that power as it is. -/
theorem identifier_judge :
    let bound : Context := .ofList [("id", .int 9007199254740994)]
    JudgedAs bound.lookup "id".toList "9007199254740992".toList
        (fun sign => sign.relates 9007199254740994 9007199254740992) ∧
      judge bound.lookup "id<=9007199254740992" = .ok false := by
  intro bound
  have identifier : StandsFor bound.lookup "id".toList (.int 9007199254740994) :=
    ⟨.word (by decide) (List.all_eq_true.1 rfl) (by decide), .inr ⟨by rfl, by rfl⟩⟩
  have power : StandsFor bound.lookup "9007199254740992".toList (.int 9007199254740992) := by
    have stands := standsFor_integerText bound.lookup 9007199254740992
    have text : Number.integerText (9007199254740992 : Int64).toInt =
        "9007199254740992".toList := by decide +kernel
    rwa [text] at stands
  have apart : roundedInt (9007199254740994 : Int64).toInt =
      roundedInt (9007199254740992 : Int64).toInt →
        (9007199254740994 : Int64) = 9007199254740992 := by decide +kernel
  have exactly := (judge_integers identifier power).2.1.2 apart
  have written : Compares "id".toList .atMost "9007199254740992".toList
      "id<=9007199254740992".toList :=
    ⟨[], [], [], [], nofun, by decide⟩
  exact ⟨exactly, exactly .atMost _ written⟩

/-- Of two neighbours above the fifty-third power of two a condition says that they are equal. -/
theorem neighbours_judge :
    let bound : Context := .ofList [("a", .int 9007199254740992), ("b", .int 9007199254740993)]
    StandsFor bound.lookup "a".toList (.int 9007199254740992) ∧
      StandsFor bound.lookup "b".toList (.int 9007199254740993) ∧
      judge bound.lookup "a == b" = .ok true ∧
      Comparison.equal.relates 9007199254740992 9007199254740993 = false := by
  intro bound
  have first : StandsFor bound.lookup "a".toList (.int 9007199254740992) :=
    ⟨.word (by decide) (List.all_eq_true.1 rfl) (by decide), .inr ⟨by rfl, by rfl⟩⟩
  have second : StandsFor bound.lookup "b".toList (.int 9007199254740993) :=
    ⟨.word (by decide) (List.all_eq_true.1 rfl) (by decide), .inr ⟨by rfl, by rfl⟩⟩
  have written : Compares "a".toList .equal "b".toList "a == b".toList :=
    ⟨[], [' '], [' '], [], List.all_eq_true.1 rfl, by decide⟩
  have outcome := judge_compared written first second
  rw [Comparison.holds_integers] at outcome
  have rounded : Comparison.equal.relates (roundedInt (9007199254740992 : Int64).toInt)
      (roundedInt (9007199254740993 : Int64).toInt) = true := by decide +kernel
  rw [rounded] at outcome
  exact ⟨first, second, outcome, by decide⟩

end NoteTemplate.Template
