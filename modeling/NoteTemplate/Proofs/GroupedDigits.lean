import NoteTemplate.Proofs.FiniteDoubles
import NoteTemplate.Proofs.WrittenWords
import NoteTemplate.Template.Function

/-!
# Digits in groups

A comma stands before every third digit, counted from the right, except in front. So the first group
has one to three digits and every other has three, which is possible in one way only
(`groupThousands_eq_iff`), and taking the commas out undoes it (`withoutCommas_groupThousands`). A
number that is formatted without a mode of its own is written in full, with the digits before its
point in groups (`groupedNumber_text`). Every value that has a number has a finite one
(`Value.isFinite_of_number?`), so there always are such digits.
-/

namespace NoteTemplate

/-- The number that a value reads as is finite. -/
theorem Value.isFinite_of_number? {value : Value} {number : Float}
    (reads : value.number? = some number) : number.isFinite = true := by
  cases value with
  | int integer =>
    obtain rfl := Option.some.inj reads
    have range : integer.toInt.natAbs < Number.twoTo 64 := by
      have lower := integer.le_toInt
      have upper := integer.toInt_lt
      change integer.toInt.natAbs < 2 ^ 64
      omega
    exact Number.isFinite_ofInt range
  | float double =>
    unfold Value.number? at reads
    dsimp only at reads
    split at reads
    · rename_i finite
      exact Option.some.inj reads ▸ finite
    · cases reads
  | string text => exact (Option.filter_eq_some_iff.1 reads).2
  | null | bool | moment | list | map => cases reads

namespace Template

/-! ## Groups -/

/-- Digits in groups: one to three in the first, and three in each other. -/
structure Groups where
  /-- The first group. -/
  first : List Char
  /-- The other groups. -/
  others : List (List Char)
  /-- The first group is not empty. -/
  first_ne_nil : first ≠ []
  /-- The first group has no more digits than another. -/
  length_first : first.length ≤ 3
  /-- Every other group has three digits. -/
  length_others : ∀ group ∈ others, group.length = 3

namespace Groups

/-- The digits of all groups. -/
def digits (groups : Groups) : List Char := (groups.first :: groups.others).flatten

/-- The groups with a comma between each two. -/
def text (groups : Groups) : List Char := [','].intercalate (groups.first :: groups.others)

end Groups

/-- Groups of three digits have a multiple of three digits. -/
theorem length_flatten_triples {groups : List (List Char)}
    (triples : ∀ group ∈ groups, group.length = 3) : groups.flatten.length % 3 = 0 := by
  induction groups with
  | nil => rfl
  | cons group groups ih =>
    obtain ⟨three, others⟩ := List.forall_mem_cons.1 triples
    have multiple := ih others
    rw [List.flatten_cons, List.length_append, three]
    omega

/-- Three digits or fewer are one group. -/
theorem groupThousands_of_length_le {group : List Char} (short : group.length ≤ 3) :
    groupThousands group = group := by
  induction group with
  | nil => rfl
  | cons c rest ih =>
    rw [List.length_cons] at short
    have inside : ¬ (rest ≠ [] ∧ rest.length % 3 = 0) := by
      rintro ⟨some, multiple⟩
      have positive := List.length_pos_iff.2 some
      omega
    rw [groupThousands, if_neg inside, ih (by omega)]

/-- The first group ends where a multiple of three digits is left. -/
theorem groupThousands_append {group rest : List Char} (filled : group ≠ [])
    (short : group.length ≤ 3) (some : rest ≠ []) (multiple : rest.length % 3 = 0) :
    groupThousands (group ++ rest) = group ++ ',' :: groupThousands rest := by
  induction group with
  | nil => exact absurd rfl filled
  | cons c group ih =>
    rw [List.length_cons] at short
    cases group with
    | nil =>
      rw [List.singleton_append, groupThousands, if_pos ⟨some, multiple⟩, List.singleton_append]
    | cons d group =>
      rw [List.length_cons] at short
      have inside : ¬ (d :: group ++ rest ≠ [] ∧ (d :: group ++ rest).length % 3 = 0) := by
        rintro ⟨-, divides⟩
        rw [List.length_append, List.length_cons] at divides
        omega
      rw [List.cons_append, groupThousands, if_neg inside,
        ih (List.cons_ne_nil d group) (by rw [List.length_cons]; omega), List.cons_append,
        List.cons_append, List.cons_append]

/-- The digits of groups are divided into these groups. -/
theorem Groups.groupThousands_digits (groups : Groups) :
    groupThousands groups.digits = groups.text := by
  obtain ⟨first, others, filled, short, triples⟩ := groups
  change groupThousands (first :: others).flatten = [','].intercalate (first :: others)
  induction others generalizing first with
  | nil =>
    rw [List.flatten_cons, List.flatten_nil, List.append_nil, groupThousands_of_length_le short,
      List.intercalate_singleton]
  | cons group others ih =>
    obtain ⟨three, later⟩ := List.forall_mem_cons.1 triples
    have some : group ≠ [] := by
      rintro rfl
      cases three
    have rest : (group :: others).flatten ≠ [] := by
      rw [List.flatten_cons]
      exact List.append_ne_nil_of_left_ne_nil some _
    rw [List.flatten_cons,
      groupThousands_append filled short rest (length_flatten_triples triples),
      ih group some (Nat.le_of_eq three) later, List.intercalate_cons_cons]
    simp

/-- Digits can be divided into groups. -/
theorem exists_groups {digits : List Char} (some : digits ≠ []) :
    ∃ groups : Groups, groups.digits = digits := by
  induction digits with
  | nil => exact absurd rfl some
  | cons c rest ih =>
    by_cases alone : rest = []
    · subst alone
      exact ⟨⟨[c], [], List.cons_ne_nil c [], by simp, nofun⟩, rfl⟩
    · obtain ⟨⟨first, others, filled, short, triples⟩, rfl⟩ := ih alone
      -- A full group gets a new one in front of it, and any other one more digit.
      by_cases full : first.length = 3
      · exact ⟨⟨[c], first :: others, List.cons_ne_nil c [], by simp,
          List.forall_mem_cons.2 ⟨full, triples⟩⟩, rfl⟩
      · have room : (c :: first).length ≤ 3 := by
          rw [List.length_cons]
          omega
        exact ⟨⟨c :: first, others, List.cons_ne_nil c first, room, triples⟩, rfl⟩

/-- There is one division of digits into groups, and it is the one that is written. -/
theorem groupThousands_eq_iff {digits text : List Char} (some : digits ≠ []) :
    groupThousands digits = text ↔
      ∃ groups : Groups, groups.digits = digits ∧ groups.text = text := by
  constructor
  · rintro rfl
    obtain ⟨groups, rfl⟩ := exists_groups some
    exact ⟨groups, rfl, groups.groupThousands_digits.symm⟩
  · rintro ⟨groups, rfl, rfl⟩
    exact groups.groupThousands_digits

/-! ## Commas -/

/-- A text with its commas taken out. -/
def withoutCommas (text : List Char) : List Char := text.filter (· ≠ ',')

/-- Of two texts the commas are taken out one after the other. -/
theorem withoutCommas_append (text more : List Char) :
    withoutCommas (text ++ more) = withoutCommas text ++ withoutCommas more :=
  List.filter_append _ _

/-- A text without commas is left as it is. -/
theorem withoutCommas_eq_self {text : List Char} (free : ',' ∉ text) :
    withoutCommas text = text := by
  rw [withoutCommas, List.filter_eq_self]
  intro c member
  exact decide_eq_true fun comma => free (comma ▸ member)

/-- Dividing a text into groups adds nothing but commas. -/
theorem withoutCommas_groupThousands (text : List Char) :
    withoutCommas (groupThousands text) = withoutCommas text := by
  induction text with
  | nil => rfl
  | cons c rest ih =>
    have step : ∀ more, withoutCommas (c :: more) = withoutCommas [c] ++ withoutCommas more :=
      withoutCommas_append [c]
    have comma : ∀ more, withoutCommas (',' :: more) = withoutCommas more := fun _ => rfl
    rw [groupThousands]
    split
    · rw [step, comma, ih, step rest]
    · rw [step, ih, step rest]

/-- There is no comma among digits. -/
theorem comma_notMem_of_isDigit {text : List Char} (digits : ∀ c ∈ text, c.isDigit = true) :
    ',' ∉ text :=
  fun member => absurd (digits ',' member) (by decide)

/-! ## Numbers -/

/-- There is no comma from the point on. -/
theorem comma_notMem_behind (number : FullNumber) : ',' ∉ number.behind := by
  intro member
  rcases number.point_or_digit member with point | digit
  · exact absurd point (by decide)
  · exact absurd digit (by decide)

/-- A number without its sign, with its digits before the point in groups. -/
def groupedWhole (text : List Char) : List Char :=
  match Text.cutAt? '.' text with
  | some (whole, fraction) => groupThousands whole ++ '.' :: fraction
  | none => groupThousands text

/-- A minus stays in front of the groups. -/
theorem groupedNumber_minus (text : List Char) :
    groupedNumber ('-' :: text) = '-' :: groupedWhole text := by
  unfold groupedNumber groupedWhole
  cases cut : Text.cutAt? '.' text with
  | none => simp [cut]
  | some parts => simp [cut]

/-- A number that does not start with a minus has no sign. -/
theorem groupedNumber_plain {c : Char} (rest : List Char) (plain : c ≠ '-') :
    groupedNumber (c :: rest) = groupedWhole (c :: rest) := by
  unfold groupedNumber groupedWhole
  split
  rename_i sign unsigned parts
  split at parts
  · rename_i same
    exact absurd (List.cons.inj same).1 plain
  · obtain ⟨rfl, rfl⟩ := Prod.mk.inj parts
    rfl

/-- A number in full is divided before its point, and what stands from there on is left as it is. -/
theorem groupedWhole_text (number : FullNumber) :
    groupedWhole number.text = groupThousands number.whole ++ number.behind := by
  have pointless : '.' ∉ number.whole := fun member =>
    absurd (number.isDigit_of_mem_whole member) (by decide)
  unfold groupedWhole FullNumber.text FullNumber.behind
  cases number.places? with
  | none =>
    dsimp only
    rw [List.append_nil, Text.cutAt?_eq_none pointless, List.append_nil]
  | some places =>
    dsimp only
    rw [Text.cutAt?_eq_some_iff.2 ⟨pointless, rfl⟩]

/-- The sign of a number in full stays in front of it when it is divided. -/
theorem groupedNumber_text (negative : Bool) (number : FullNumber) :
    groupedNumber ((if negative then ['-'] else []) ++ number.text) =
      (if negative then ['-'] else []) ++ (groupThousands number.whole ++ number.behind) := by
  cases negative with
  | true =>
    change groupedNumber ('-' :: number.text) =
      '-' :: (groupThousands number.whole ++ number.behind)
    rw [groupedNumber_minus, groupedWhole_text]
  | false =>
    change groupedNumber number.text = _
    obtain ⟨c, rest, whole, digit⟩ := number.exists_digit
    have plain : c ≠ '-' := by
      rintro rfl
      exact absurd digit (by decide)
    have start : number.text = c :: (rest ++ number.behind) := by
      rw [FullNumber.text, whole, List.cons_append]
    rw [start, groupedNumber_plain _ plain, ← start, groupedWhole_text]
    rfl

/-! ## The call -/

/-- A mode that asks neither for money, nor for a share of a hundred, nor for a number of places. -/
def IsPlainMode (mode : List Char) : Prop :=
  mode ≠ "currency".toList ∧ mode ≠ "percent".toList ∧ ¬ "decimal_".toList <+: mode

/-- Without a mode of its own a number is written in full, in groups. -/
theorem IsPlainMode.formatNumber {mode : List Char} (plain : IsPlainMode mode) (number : Float) :
    formatNumber number mode =
      .ok (String.ofList (groupedNumber (Value.numberText number))) := by
  obtain ⟨noMoney, noShare, noPlaces⟩ := plain
  have uncut : Text.dropFront? "decimal_".toList mode = none := by
    cases cut : Text.dropFront? "decimal_".toList mode with
    | none => rfl
    | some rest => exact absurd ⟨rest, (Text.dropFront?_eq_some_iff.1 cut).symm⟩ noPlaces
  rw [Template.formatNumber, if_neg noMoney, if_neg noShare, uncut]

/-- A first argument that has a number is formatted by the mode that the second one spells. -/
theorem call_numberFormat {lookup : Lookup} {source : String} {number : Float}
    (reads : (Arguments.value ⟨readArguments source.toList, lookup⟩ 0).number? = some number) :
    call lookup "number_format" source =
      formatNumber number (Arguments.literal ⟨readArguments source.toList, lookup⟩ 1) := by
  have enough : ¬ (readArguments source.toList).length < 1 := by
    intro none
    rw [Nat.lt_one_iff, List.length_eq_zero_iff] at none
    rw [none] at reads
    cases reads
  rw [call_eq_callOn]
  simp only [callOn, function?, if_neg enough, numberFormat, reads]

/-- Digits are divided by commas into a first group of one to three and other groups of three, which
is possible in one way only, and without the commas they are as before. A number that is formatted
without a mode of its own is written in full, with the digits before its point divided in this way.
Without the commas it is the number in full, and from the point on there is none. -/
theorem numberFormat_grouped :
    (∀ digits : List Char, Number.isDigits digits = true →
      (∀ text, groupThousands digits = text ↔
        ∃ groups : Groups, groups.digits = digits ∧ groups.text = text) ∧
      withoutCommas (groupThousands digits) = digits) ∧
    ∀ (lookup : Lookup) (source : String) (number : Float),
      let arguments : Arguments := ⟨readArguments source.toList, lookup⟩
      (arguments.value 0).number? = some number → IsPlainMode (arguments.literal 1) →
      ∃ (negative : Bool) (full : FullNumber),
        let sign := if negative then ['-'] else []
        let written := sign ++ (groupThousands full.whole ++ full.behind)
        Value.numberText number = sign ++ full.text ∧
        call lookup "number_format" source = .ok (String.ofList written) ∧
        withoutCommas written = Value.numberText number ∧ ',' ∉ full.behind := by
  constructor
  · intro digits isDigits
    obtain ⟨filled, all⟩ := Number.isDigits_iff.1 isDigits
    refine ⟨fun text => groupThousands_eq_iff filled, ?_⟩
    rw [withoutCommas_groupThousands, withoutCommas_eq_self (comma_notMem_of_isDigit all)]
  · intro lookup source number arguments reads plain
    obtain ⟨negative, full, text⟩ :=
      exists_fullNumber_numberText (Number.isFinite_ofFloat (Value.isFinite_of_number? reads))
    refine ⟨negative, full, text, ?_, ?_, comma_notMem_behind full⟩
    · rw [call_numberFormat reads, plain.formatNumber, text, groupedNumber_text]
    · have sign : ',' ∉ (if negative then ['-'] else []) := by cases negative <;> decide
      have whole : ',' ∉ full.whole :=
        comma_notMem_of_isDigit fun c member => full.isDigit_of_mem_whole member
      rw [withoutCommas_append, withoutCommas_append, withoutCommas_groupThousands,
        withoutCommas_eq_self sign, withoutCommas_eq_self whole,
        withoutCommas_eq_self (comma_notMem_behind full), text, FullNumber.text]

/-- A text that is a number between white space, with a minus, seven digits before its point and two
behind it. -/
theorem numberFormat_grouped_millions :
    let lookup : Lookup := fun path =>
      if path = "total" then some (.string " -1234567.25\n") else none
    let arguments : Arguments := ⟨readArguments "total, plain".toList, lookup⟩
    Number.isDigits "1234567".toList = true ∧
      (∃ groups : Groups,
        groups.digits = "1234567".toList ∧ groups.text = "1,234,567".toList) ∧
      (arguments.value 0).number? = some (-1234567.25) ∧ IsPlainMode (arguments.literal 1) ∧
      call lookup "number_format" "total, plain" = .ok "-1,234,567.25" ∧
      withoutCommas "-1,234,567.25".toList = Value.numberText (-1234567.25) := by
  intro lookup arguments
  have isDigits : Number.isDigits "1234567".toList = true := by decide
  have divided : groupThousands "1234567".toList = "1,234,567".toList := by decide
  have reads : (arguments.value 0).number? = some (-1234567.25) := by decide +kernel
  have plain : IsPlainMode (arguments.literal 1) := by
    have mode : arguments.literal 1 = "plain".toList := by decide +kernel
    rw [mode]
    exact ⟨by decide, by decide, by decide⟩
  have shown : call lookup "number_format" "total, plain" = .ok "-1,234,567.25" := by
    have text : Value.numberText (-1234567.25) = "-1234567.25".toList := by decide +kernel
    rw [call_numberFormat reads, plain.formatNumber, text]
    rfl
  obtain ⟨digitsGrouped, numbersGrouped⟩ := numberFormat_grouped
  obtain ⟨negative, full, -, called, free, -⟩ :=
    numbersGrouped lookup "total, plain" (-1234567.25) reads plain
  have written : "-1,234,567.25".toList =
      (if negative then ['-'] else []) ++ (groupThousands full.whole ++ full.behind) :=
    (congrArg String.toList (Except.ok.inj (shown.symm.trans called))).trans String.toList_ofList
  rw [← written] at free
  exact ⟨isDigits, ((digitsGrouped _ isDigits).1 _).1 divided, reads, plain, shown, free⟩

end Template

end NoteTemplate
