import NoteTemplate.Calendar.Moment

/-!
# Numerals that are read back

The digits of a natural number are read as the number, with or without zeros in front
(`ofDigits_padded`), and the decimal text of an integer as the integer (`int64?_integerText`).
-/

namespace NoteTemplate.Number

open Calendar (filled padded)

/-- The digits of a natural number are read back. -/
theorem ofDigits_digits (value : Nat) : ofDigits (digits value) = value := by
  have steps : ofDigits (digits value) = Nat.ofDigitChars 10 (digits value) 0 := by
    simp only [ofDigits, Nat.ofDigitChars, digitValue, Nat.mul_comm]
  rw [steps, digits, Nat.ofDigitChars_toDigits (by decide) (by decide)]

/-- Zeros in front of a number do not change it. -/
theorem ofDigits_padded (width value : Nat) : ofDigits (padded width value) = value := by
  have zeros : ∀ (count : Nat) (text : List Char),
      ofDigits (List.replicate count '0' ++ text) = ofDigits text := by
    intro count text
    induction count with
    | zero => rfl
    | succ count ih => exact ih
  exact (zeros _ _).trans (ofDigits_digits value)

/-- The text of a natural number holds digits only. -/
theorem isDigit_of_mem_digits {value : Nat} {c : Char} (member : c ∈ digits value) :
    c.isDigit = true :=
  Nat.isDigit_of_mem_toDigits (by decide) (by decide) member

/-- A number with zeros in front holds digits only. -/
theorem isDigit_of_mem_padded {width value : Nat} {c : Char} (member : c ∈ padded width value) :
    c.isDigit = true := by
  rcases List.mem_append.1 member with zero | digit
  · rw [List.eq_of_mem_replicate zero]
    decide
  · exact isDigit_of_mem_digits digit

/-- A number with zeros in front has its width. -/
theorem le_length_padded (width value : Nat) : width ≤ (padded width value).length := by
  simp only [padded, filled, List.length_append, List.length_replicate]
  omega

/-- A text of digits is not empty, and each of its characters is a digit. -/
theorem isDigits_iff {text : List Char} :
    isDigits text = true ↔ text ≠ [] ∧ ∀ c ∈ text, c.isDigit = true := by
  simp [isDigits]

/-- A natural number is written in digits. -/
theorem isDigits_digits (value : Nat) : isDigits (digits value) = true :=
  isDigits_iff.2 ⟨Nat.toDigits_ne_nil, fun _ => isDigit_of_mem_digits⟩

/-- A text that starts with no sign is left as it is. -/
theorem splitSign_plain {c : Char} (rest : List Char) (minus : c ≠ '-') (plus : c ≠ '+') :
    splitSign (c :: rest) = (false, c :: rest) := by
  unfold splitSign
  split
  · rename_i same
    exact absurd (List.cons.inj same).1 minus
  · rename_i same
    exact absurd (List.cons.inj same).1 plus
  · rfl

/-- The decimal text of an integer is read back. -/
theorem integer?_integerText (value : Int) : integer? (integerText value) = some value := by
  unfold integerText
  split
  · rename_i negative
    simp only [integer?, splitSign, if_pos (isDigits_digits _), ofDigits_digits, if_true,
      Option.some.injEq]
    omega
  · rename_i positive
    have plain : splitSign (digits value.natAbs) = (false, digits value.natAbs) := by
      have all : ∀ c ∈ digits value.natAbs, c.isDigit = true := fun _ => isDigit_of_mem_digits
      obtain ⟨c, rest, same⟩ := List.exists_cons_of_ne_nil (l := digits value.natAbs)
        Nat.toDigits_ne_nil
      have digit : c.isDigit = true := all c (same ▸ List.mem_cons_self)
      rw [same]
      apply splitSign_plain
      · rintro rfl
        exact absurd digit (by decide)
      · rintro rfl
        exact absurd digit (by decide)
    simp only [integer?, plain, if_pos (isDigits_digits _), ofDigits_digits, Bool.false_eq_true,
      if_false, Option.some.injEq]
    omega

/-- The decimal text of an integer of sixty-four bits is read back. -/
theorem int64?_integerText (value : Int64) : int64? (integerText value.toInt) = some value := by
  have range : Int64.minValue.toInt ≤ value.toInt ∧ value.toInt ≤ Int64.maxValue.toInt :=
    ⟨value.minValue_le_toInt, value.toInt_le⟩
  rw [int64?, integer?_integerText]
  dsimp only
  rw [if_pos range, Int64.ofInt_toInt]

/-- What is read as an integer starts with a digit or a sign. -/
theorem head_of_int64? {text : List Char} {value : Int64} (read : int64? text = some value) :
    ∃ c rest, text = c :: rest ∧ (c.isDigit = true ∨ c = '-' ∨ c = '+') := by
  cases text with
  | nil => cases read
  | cons c rest =>
    refine ⟨c, rest, rfl, ?_⟩
    by_cases minus : c = '-'
    · exact .inr (.inl minus)
    by_cases plus : c = '+'
    · exact .inr (.inr plus)
    have digits : isDigits (c :: rest) = true := by
      apply Decidable.byContradiction
      intro other
      simp only [int64?, integer?, splitSign_plain rest minus plus, if_neg other] at read
      cases read
    simp only [isDigits, List.all_cons, Bool.and_eq_true] at digits
    exact .inl digits.2.1

end NoteTemplate.Number
