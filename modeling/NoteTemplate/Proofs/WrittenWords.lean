import NoteTemplate.Calendar.Pattern
import NoteTemplate.Proofs.DocumentHeader
import NoteTemplate.Proofs.ReadNumerals
import NoteTemplate.Value.Display

/-!
# Dates and numbers as words

The text of a date, of a timestamp and of a number is a word, so it can stand in a header without
quotes. A date is no number, whatever the day, so it can be read (`isReadable_datedText`). A finite
number is written in full, with digits on both sides of a point or without one
(`exists_fullNumber_numberText`).
-/

namespace NoteTemplate

open Calendar (Moment dayItems format padded stampItems write_year zeroPadded)
open Number (digits isDigit_of_mem_digits isDigit_of_mem_padded le_length_padded)

section Letters

/-- A letter or a digit in front, letters of words behind it and no colon at the end make a word. -/
theorem isWord_of_letters {c : Char} {rest : List Char} (first : c.isAlphanum = true)
    (letters : ∀ d ∈ rest, isWordLetter d = true) (last : (c :: rest).getLast? ≠ some ':') :
    isWord (c :: rest) = true := by
  have front : isWordLetter c = true := by simp [isWordLetter, first]
  have all : (c :: rest).all isWordLetter = true :=
    List.all_eq_true.2 (List.forall_mem_cons.2 ⟨front, letters⟩)
  simp [isWord, first, all, last]

/-- A digit is a letter of a word. -/
theorem isWordLetter_of_isDigit {c : Char} (digit : c.isDigit = true) : isWordLetter c = true := by
  simp [isWordLetter, Char.isAlphanum, digit]

/-- Letters of words can be quoted. -/
theorem isQuotable_of_letters {text : List Char} (letters : ∀ c ∈ text, isWordLetter c = true) :
    isQuotable text = true := by
  have plain : text.all isQuotableCharacter = true :=
    List.all_eq_true.2 fun c member => isQuotableCharacter_of_isWordLetter (letters c member)
  have whole : ∀ c ∈ text, isLineEnd c = false := fun c member =>
    isLineEnd_of_black (isBlank_of_isWordLetter (letters c member))
  have unseparated : isUnseparated false (text ++ []) = true := isUnseparated_within text whole rfl
  rw [List.append_nil] at unseparated
  exact Bool.and_eq_true_iff.2 ⟨plain, unseparated⟩

end Letters

section Dates

/-- A text that starts with a year and a hyphen and ends in a number of two digits. -/
def datedText (year : Nat) (middle : List Char) (last : Nat) : List Char :=
  padded 4 year ++ '-' :: (middle ++ padded 2 last)

/-- What stands between the year and the minutes of the offset in a timestamp. -/
def stampMiddle (now : Moment) : List Char :=
  padded 2 now.date.month ++ '-' :: padded 2 now.date.day ++ 'T' :: padded 2 now.clock.hour ++
    ':' :: padded 2 now.clock.minute ++ ':' :: padded 2 now.clock.second ++
    (if now.offset < 0 then '-' else '+') :: padded 2 (now.offset.natAbs / 60) ++ [':']

/-- The text of a day. -/
theorem format_dayItems (now : Moment) :
    (format dayItems now).toList =
      datedText now.date.year (padded 2 now.date.month ++ ['-']) now.date.day := by
  have cut : (format dayItems now).toList =
      (zeroPadded .year).write now ++ '-' :: ((padded 2 now.date.month ++ ['-']) ++
        padded 2 now.date.day) := by
    rw [format, String.toList_ofList]
    show _ ++ (['-'] ++ (padded 2 now.date.month ++ (['-'] ++ (padded 2 now.date.day ++ [])))) = _
    simp
  rw [cut, write_year]
  rfl

/-- The text of a timestamp. -/
theorem format_stampItems (now : Moment) :
    (format stampItems now).toList =
      datedText now.date.year (stampMiddle now) (now.offset.natAbs % 60) := by
  have cut : (format stampItems now).toList =
      (zeroPadded .year).write now ++ '-' :: (stampMiddle now ++
        padded 2 (now.offset.natAbs % 60)) := by
    rw [format, String.toList_ofList]
    show _ ++ (['-'] ++ (padded 2 now.date.month ++ (['-'] ++ (padded 2 now.date.day ++ (['T'] ++
      (padded 2 now.clock.hour ++ ([':'] ++ (padded 2 now.clock.minute ++ ([':'] ++
        (padded 2 now.clock.second ++ (Calendar.offsetText [':'] now.offset ++ []))))))))))) = _
    simp [stampMiddle, Calendar.offsetText]
  rw [cut, write_year]
  rfl

section Words

variable {middle : List Char}

/-- A dated text starts with two digits. -/
theorem datedText_front (year : Nat) (middle : List Char) (last : Nat) :
    ∃ c d rest, datedText year middle last = c :: d :: rest ∧ c.isDigit = true ∧
      d.isDigit = true ∧ '-' ∈ rest := by
  have long := le_length_padded 4 year
  have digit : ∀ c ∈ padded 4 year, c.isDigit = true := fun _ => isDigit_of_mem_padded
  match front : padded 4 year with
  | c :: d :: more =>
    rw [front] at digit
    exact ⟨c, d, _, by rw [datedText, front]; rfl, digit c (by simp), digit d (by simp), by simp⟩
  | [_] =>
    rw [front] at long
    exact absurd long (by simp)
  | [] =>
    rw [front] at long
    exact absurd long (by simp)

/-- A dated text is a word. -/
theorem isWord_datedText (year last : Nat) (letters : ∀ c ∈ middle, isWordLetter c = true) :
    isWord (datedText year middle last) = true := by
  obtain ⟨c, d, rest, text, digit, -, -⟩ := datedText_front year middle last
  have all : ∀ e ∈ datedText year middle last, isWordLetter e = true := by
    intro e member
    rcases List.mem_append.1 member with front | behind
    · exact isWordLetter_of_isDigit (isDigit_of_mem_padded front)
    · rcases List.mem_cons.1 behind with rfl | behind
      · decide
      · rcases List.mem_append.1 behind with inner | back
        · exact letters e inner
        · exact isWordLetter_of_isDigit (isDigit_of_mem_padded back)
  have ends : (datedText year middle last).getLast? ≠ some ':' := by
    intro colon
    have cut : datedText year middle last = (padded 4 year ++ '-' :: middle) ++ padded 2 last := by
      simp [datedText]
    rw [cut, List.getLast?_append] at colon
    cases back : (padded 2 last).getLast? with
    | none =>
      have long := le_length_padded 2 last
      rw [List.getLast?_eq_none_iff.1 back] at long
      exact absurd long (by simp)
    | some e =>
      rw [back] at colon
      obtain rfl : e = ':' := Option.some.inj colon
      exact absurd (isDigit_of_mem_padded (List.mem_of_getLast? back)) (by decide)
  rw [text] at all ends ⊢
  have first : c.isAlphanum = true := by simp [Char.isAlphanum, digit]
  exact isWord_of_letters first (fun e member => all e (List.mem_cons_of_mem _ member)) ends

/-- A dated text is no integer. -/
theorem integer?_datedText (year : Nat) (middle : List Char) (last : Nat) :
    Yaml.integer? (datedText year middle last) = none := by
  obtain ⟨c, d, rest, text, digit, second, hyphen⟩ := datedText_front year middle last
  have noSign : Number.splitSign (c :: d :: rest) = (false, c :: d :: rest) := by
    have noHyphen : c ≠ '-' := by
      rintro rfl
      exact absurd digit (by decide)
    have noPlus : c ≠ '+' := by
      rintro rfl
      exact absurd digit (by decide)
    simp [Number.splitSign, noHyphen, noPlus]
  have noMark : Yaml.marked? (c :: d :: rest) = none := by
    have noLetter : d ∉ ['x', 'o', 'b'] := by
      intro member
      simp only [List.mem_cons, List.not_mem_nil, or_false] at member
      rcases member with rfl | rfl | rfl <;> exact absurd second (by decide)
    simp only [List.mem_cons, List.not_mem_nil, or_false, not_or] at noLetter
    simp [Yaml.marked?, noLetter]
  have noDigits : Number.isDigits (c :: d :: rest) = false := by
    refine Bool.eq_false_iff.2 fun digits => ?_
    have all := (Bool.and_eq_true_iff.1 digits).2
    have hyphen := List.all_eq_true.1 all '-' (by simp [hyphen])
    exact absurd hyphen (by decide)
  rw [text, Yaml.integer?, noSign]
  dsimp only
  rw [noMark, noDigits]
  simp

/-- A dated text can be read. -/
theorem isReadable_datedText (year : Nat) (middle : List Char) (last : Nat) :
    (WrittenValue.word (datedText year middle last)).isReadable = true := by
  have noInteger : Yaml.sized (datedText year middle last) = .none := by
    rw [Yaml.sized, integer?_datedText]
  rw [WrittenValue.isReadable, Yaml.plainValue?]
  split
  · rfl
  · split
    · rfl
    · rw [noInteger]
      dsimp only
      generalize (if Yaml.hasIdleZero (datedText year middle last) then none
        else Yaml.double? (datedText year middle last)) = number
      cases number <;> rfl

/-- The text of a day is a word and can be read. -/
theorem word_day (now : Moment) :
    isWord (format dayItems now).toList = true ∧
      (WrittenValue.word (format dayItems now).toList).isReadable = true := by
  have letters : ∀ c ∈ padded 2 now.date.month ++ ['-'], isWordLetter c = true := by
    intro c member
    rcases List.mem_append.1 member with digit | hyphen
    · exact isWordLetter_of_isDigit (isDigit_of_mem_padded digit)
    · rw [List.mem_singleton.1 hyphen]
      decide
  rw [format_dayItems]
  exact ⟨isWord_datedText _ _ letters, isReadable_datedText _ _ _⟩

/-- The text of a timestamp is a word and can be read. -/
theorem word_stamp (now : Moment) :
    isWord (format stampItems now).toList = true ∧
      (WrittenValue.word (format stampItems now).toList).isReadable = true := by
  have number : ∀ {value : Nat} {c : Char}, c ∈ padded 2 value → isWordLetter c = true :=
    fun member => isWordLetter_of_isDigit (isDigit_of_mem_padded member)
  have letters : ∀ c ∈ stampMiddle now, isWordLetter c = true := by
    intro c member
    have sign : c = (if now.offset < 0 then '-' else '+') → isWordLetter c = true := by
      rintro rfl
      split <;> decide
    have mark : ∀ {d : Char}, isWordLetter d = true → c = d → isWordLetter c = true :=
      fun letter same => same ▸ letter
    simp only [stampMiddle, List.append_assoc, List.mem_append, List.mem_cons, List.cons_append,
      List.not_mem_nil, or_false] at member
    rcases member with digit | other | digit | other | digit | other | digit | other | digit |
      other | digit | other
    all_goals first | exact number digit | exact sign other | exact mark (by decide) other
  rw [format_stampItems]
  exact ⟨isWord_datedText _ _ letters, isReadable_datedText _ _ _⟩

end Words

end Dates

section Numbers

/-- A digit with digits and points behind it. -/
def IsNumeral (text : List Char) : Prop :=
  ∃ c rest, text = c :: rest ∧ c.isDigit = true ∧ ∀ d ∈ rest, d.isDigit = true ∨ d = '.'

/-- A numeral is a word, with or without a hyphen in front. -/
theorem isWord_signed {text : List Char} (numeral : IsNumeral text) (negative : Bool) :
    isWord ((if negative then ['-'] else []) ++ text) = true := by
  obtain ⟨c, rest, rfl, digit, others⟩ := numeral
  have letters : ∀ d ∈ rest, isWordLetter d = true := by
    intro d member
    rcases others d member with digit | rfl
    · exact isWordLetter_of_isDigit digit
    · decide
  have last : (c :: rest).getLast? ≠ some ':' := by
    intro colon
    rcases List.mem_cons.1 (List.mem_of_getLast? colon) with rfl | member
    · exact absurd digit (by decide)
    · rcases others ':' member with digit | point
      · exact absurd digit (by decide)
      · exact absurd point (by decide)
  have word : isWord (c :: rest) = true :=
    isWord_of_letters (by simp [Char.isAlphanum, digit]) letters last
  cases negative with
  | false => exact word
  | true =>
    have all : (c :: rest).all isWordLetter = true :=
      List.all_eq_true.2 (isWordLetter_of_isWord word)
    have hyphen : isWordLetter '-' = true := by decide
    have front : ('-' :: c :: rest).all isWordLetter = true := by
      rw [List.all_cons, hyphen, all]
      rfl
    show isWord ('-' :: c :: rest) = true
    simpa [isWord, front] using last

/-- The decimal that is written for a double holds digits only. -/
theorem isDigit_of_mem_shortest {tie : Number.Tie} {mantissa : Nat} {exponent : Int} {c : Char}
    (member : c ∈ (Number.Decimal.shortest tie mantissa exponent).significant) :
    c.isDigit = true := by
  have grid : ∀ count (place : Int), c ∈ (Number.Decimal.ofGrid count place).significant →
      c.isDigit = true := by
    intro count place member
    have within : c ∈ ((digits count).reverse.dropWhile (· = '0')) := List.mem_reverse.1 member
    have digit := (List.dropWhile_sublist _).subset within
    exact isDigit_of_mem_digits (List.mem_reverse.1 digit)
  simp only [Number.Decimal.shortest] at member
  generalize found : (List.range 17).findSome? _ = answer at member
  cases answer with
  | none => exact grid _ _ member
  | some decimal =>
    obtain ⟨count, -, given⟩ := List.exists_of_findSome?_eq_some found
    obtain ⟨multiple, -, rfl⟩ := Option.map_eq_some_iff.1 given
    exact grid _ _ member

/-- The digits of a number that is written in full: one or more before the point, and more behind it
if there is a point. -/
structure FullNumber where
  /-- The digits before the point. -/
  whole : List Char
  /-- The digits behind the point. -/
  places? : Option (List Char)
  /-- Before the point there is a digit, and nothing else. -/
  isDigits_whole : Number.isDigits whole = true
  /-- Behind the point there is nothing but digits. -/
  isDigit_places : ∀ places ∈ places?, ∀ c ∈ places, c.isDigit = true

namespace FullNumber

/-- The point with what stands behind it. -/
def behind (number : FullNumber) : List Char :=
  match number.places? with
  | none => []
  | some places => '.' :: places

/-- The number as it is written. -/
def text (number : FullNumber) : List Char := number.whole ++ number.behind

/-- Before the point there are digits only. -/
theorem isDigit_of_mem_whole (number : FullNumber) {c : Char} (member : c ∈ number.whole) :
    c.isDigit = true :=
  (Number.isDigits_iff.1 number.isDigits_whole).2 c member

/-- A number starts with a digit. -/
theorem exists_digit (number : FullNumber) :
    ∃ c rest, number.whole = c :: rest ∧ c.isDigit = true := by
  obtain ⟨filled, digits⟩ := Number.isDigits_iff.1 number.isDigits_whole
  obtain ⟨c, rest, whole⟩ := List.exists_cons_of_ne_nil filled
  exact ⟨c, rest, whole, digits c (whole ▸ List.mem_cons_self)⟩

/-- The point and digits are all that stands behind the whole. -/
theorem point_or_digit (number : FullNumber) {c : Char} (member : c ∈ number.behind) :
    c = '.' ∨ c.isDigit = true := by
  unfold behind at member
  split at member
  · cases member
  · rename_i places found
    rcases List.mem_cons.1 member with point | inside
    · exact .inl point
    · exact .inr (number.isDigit_places places found c inside)

/-- A number in full is a numeral. -/
theorem isNumeral (number : FullNumber) : IsNumeral number.text := by
  obtain ⟨c, rest, whole, digit⟩ := number.exists_digit
  refine ⟨c, rest ++ number.behind, ?_, digit, fun d member => ?_⟩
  · rw [text, whole, List.cons_append]
  · rcases List.mem_append.1 member with before | behind
    · exact .inl (number.isDigit_of_mem_whole (whole ▸ List.mem_cons_of_mem c before))
    · exact (number.point_or_digit behind).symm

/-- Digits alone are a number without a point. -/
def ofDigits (digits : List Char) (some : Number.isDigits digits = true) : FullNumber :=
  ⟨digits, none, some, nofun⟩

/-- Digits alone are the text of the number. -/
theorem text_ofDigits (digits : List Char) (some : Number.isDigits digits = true) :
    (ofDigits digits some).text = digits :=
  List.append_nil digits

end FullNumber

/-- A decimal without an exponent is a number in full. -/
theorem exists_fullNumber_positional {decimal : Number.Decimal}
    (digits : ∀ c ∈ decimal.significant, c.isDigit = true) :
    ∃ number : FullNumber, decimal.positional [] = number.text := by
  have zeros : ∀ {count : Nat} {c : Char}, c ∈ Number.zeros count → c.isDigit = true := by
    intro count c member
    rw [List.eq_of_mem_replicate member]
    decide
  unfold Number.Decimal.positional
  dsimp only
  split
  · -- Below one: a zero, and zeros in front of the digits.
    have places : ∀ c ∈ Number.zeros (-decimal.point).toNat ++ decimal.significant,
        c.isDigit = true := by
      intro c member
      exact (List.mem_append.1 member).elim zeros (digits c)
    exact ⟨⟨['0'], some _, rfl, by rintro _ ⟨⟩; exact places⟩, rfl⟩
  · split
    · -- No digit is left for a place: zeros behind the digits.
      have whole : ∀ c ∈ decimal.significant ++
          Number.zeros (decimal.point - decimal.significant.length).toNat, c.isDigit = true := by
        intro c member
        exact (List.mem_append.1 member).elim (digits c) zeros
      have filled : decimal.significant ++
          Number.zeros (decimal.point - decimal.significant.length).toNat ≠ [] := by
        intro none
        have length := congrArg List.length none
        simp only [Number.zeros, List.length_append, List.length_replicate, List.length_nil]
          at length
        omega
      refine ⟨.ofDigits _ (Number.isDigits_iff.2 ⟨filled, whole⟩), ?_⟩
      rw [FullNumber.text_ofDigits, List.append_nil]
    · -- The point stands between two digits.
      have filled : decimal.significant.take decimal.point.toNat ≠ [] := by
        intro none
        have length := congrArg List.length none
        rw [List.length_take, List.length_nil] at length
        omega
      have whole := Number.isDigits_iff.2
        ⟨filled, fun c member => digits c (List.mem_of_mem_take member)⟩
      have places : ∀ c ∈ decimal.significant.drop decimal.point.toNat, c.isDigit = true :=
        fun c member => digits c (List.mem_of_mem_drop member)
      exact ⟨⟨_, some _, whole, by rintro _ ⟨⟩; exact places⟩, rfl⟩

/-- A finite double is written in full, with a hyphen in front if it is negative. -/
theorem exists_fullNumber_numberText {value : Float}
    (finite : (Number.Binary64.ofFloat value).isFinite = true) :
    ∃ (negative : Bool) (number : FullNumber),
      Value.numberText value = (if negative then ['-'] else []) ++ number.text := by
  have whole : ∀ integer : Int, ∃ (negative : Bool) (number : FullNumber),
      Number.integerText integer = (if negative then ['-'] else []) ++ number.text := by
    intro integer
    refine ⟨decide (integer < 0), .ofDigits _ (Number.isDigits_digits integer.natAbs), ?_⟩
    rw [FullNumber.text_ofDigits, Number.integerText]
    by_cases below : integer < 0
    · rw [if_pos below, if_pos (decide_eq_true below), List.singleton_append]
    · rw [if_neg below, if_neg (by rwa [decide_eq_true_eq]), List.nil_append]
  have double : ∃ (negative : Bool) (number : FullNumber),
      Value.doubleText value = (if negative then ['-'] else []) ++ number.text := by
    unfold Value.doubleText
    cases content : Number.Binary64.ofFloat value with
    | nan => rw [content] at finite; cases finite
    | infinite negative => rw [content] at finite; cases finite
    | finite negative mantissa exponent =>
      refine ⟨negative, ?_⟩
      dsimp only [Number.Style.finite]
      split
      · exact ⟨.ofDigits ['0'] rfl, rfl⟩
      · have digits : ∀ c ∈ (Number.Decimal.shortest .up mantissa exponent).significant,
            c.isDigit = true := fun c => isDigit_of_mem_shortest
        obtain ⟨number, text⟩ := exists_fullNumber_positional digits
        exact ⟨number, congrArg _ text⟩
  unfold Value.numberText
  split
  · split
    · exact whole _
    · exact double
  · exact double

/-- The text of a number is a word. -/
theorem isWord_numberText (value : Float) : isWord (Value.numberText value) = true := by
  by_cases finite : (Number.Binary64.ofFloat value).isFinite = true
  · obtain ⟨negative, number, text⟩ := exists_fullNumber_numberText finite
    rw [text]
    exact isWord_signed number.isNumeral negative
  · unfold Value.numberText Value.doubleText
    cases content : Number.Binary64.ofFloat value with
    | nan => decide
    | infinite negative => cases negative <;> decide
    | finite negative mantissa exponent => exact absurd (content ▸ rfl) finite

end Numbers

end NoteTemplate
