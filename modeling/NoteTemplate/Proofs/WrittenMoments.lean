import NoteTemplate.Proofs.ReadNumerals

/-!
# Timestamps that are read back

A moment is written in numbers of fixed width with other marks between them, so its timestamp is
read part by part (`Calendar.Moment.read?_localText`). What is read has the clock and the offset of
the moment, whether the offset of Greenwich is written in numbers (`Calendar.Moment.ofText?_text`)
or as a letter (`Calendar.Moment.ofText?_letteredText`).
-/

namespace NoteTemplate.Calendar

open Number (digits isDigit_of_mem_padded tenTo)

/-! ## Numbers of fixed width -/

section Digits

variable {width value : Nat}

/-- A number that its width has room for fills it. -/
theorem length_padded (pos : 0 < width) (room : value < tenTo width) :
    (padded width value).length = width := by
  have fits : (digits value).length ≤ width := (Nat.length_toDigits_le_iff (by decide) pos).2 room
  simp only [padded, filled, List.length_append, List.length_replicate]
  omega

/-- A number that fills its width is read from the front of a text. -/
theorem takeDigits?_padded (pos : 0 < width) (room : value < tenTo width) (rest : List Char) :
    takeDigits? width (padded width value ++ rest) = some (value, rest) := by
  have length := length_padded pos room
  have front : (padded width value ++ rest).take width = padded width value := by
    rw [List.take_append_of_le_length (by omega), List.take_of_length_le (by omega)]
  have behind : (padded width value ++ rest).drop width = rest := by
    rw [List.drop_append_of_le_length (by omega), List.drop_of_length_le (by omega),
      List.nil_append]
  have all : (padded width value).all Char.isDigit = true :=
    List.all_eq_true.2 fun c => isDigit_of_mem_padded
  simp only [takeDigits?, front, behind, length, all, and_self, if_true, Number.ofDigits_padded]

/-- A number of two digits is read from the front of a text. -/
theorem takeDigits?_two (room : value < 100) (rest : List Char) :
    takeDigits? 2 (padded 2 value ++ rest) = some (value, rest) :=
  takeDigits?_padded (by decide) room rest

end Digits

/-! ## The fraction of a second -/

section Fraction

variable {rest : List Char}

/-- The digits of a fraction are read up to the first other character. -/
theorem takeFraction?_padded {places value : Nat} (pos : 0 < places) (few : places ≤ 9)
    (room : value < tenTo places) (stops : ∀ c ∈ rest.head?, c.isDigit = false) :
    takeFraction? ('.' :: (padded places value ++ rest)) =
      some (value * tenTo (9 - places), rest) := by
  have length := length_padded pos room
  have all : ∀ c ∈ padded places value, c.isDigit = true := fun c => isDigit_of_mem_padded
  have noDigits : rest.takeWhile Char.isDigit = [] ∧ rest.dropWhile Char.isDigit = rest := by
    cases rest with
    | nil => exact ⟨rfl, rfl⟩
    | cons c rest => simp [stops c rfl]
  have front : (padded places value ++ rest).takeWhile Char.isDigit = padded places value := by
    rw [List.takeWhile_append_of_pos all, noDigits.1, List.append_nil]
  have behind : (padded places value ++ rest).dropWhile Char.isDigit = rest := by
    rw [List.dropWhile_append_of_pos all, noDigits.2]
  have filled : (padded places value).isEmpty = false := by
    rw [List.isEmpty_eq_false_iff, ← List.length_pos_iff]
    omega
  have nine : (padded places value).take 9 = padded places value :=
    List.take_of_length_le (by omega)
  simp only [takeFraction?, front, behind, filled, nine, length, Bool.false_eq_true, if_false,
    Number.ofDigits_padded]

/-- The fraction of a second is read by its shortest form. -/
theorem takeFraction?_shortFraction {nanosecond : Nat} (range : nanosecond < 1000000000)
    (stops : ∀ c ∈ rest.head?, c.isDigit = false ∧ c ≠ '.') :
    takeFraction? (shortFraction nanosecond ++ rest) = some (nanosecond, rest) := by
  have noDigit : ∀ c ∈ rest.head?, c.isDigit = false := fun c member => (stops c member).1
  unfold shortFraction
  split
  · rename_i zero
    rw [zero, List.nil_append]
    cases rest with
    | nil => rfl
    | cons c rest =>
      unfold takeFraction?
      split
      · rename_i point
        exact absurd (List.cons.inj point).1 (stops c rfl).2
      · rfl
  · split
    · rename_i thousands
      have scale : nanosecond / 1000000 * tenTo (9 - 3) = nanosecond := by
        change nanosecond / 1000000 * 1000000 = nanosecond
        omega
      have room : nanosecond / 1000000 < tenTo 3 := by
        change nanosecond / 1000000 < 1000
        omega
      rw [List.cons_append, takeFraction?_padded (by decide) (by decide) room noDigit, scale]
    · split
      · rename_i millions
        have scale : nanosecond / 1000 * tenTo (9 - 6) = nanosecond := by
          change nanosecond / 1000 * 1000 = nanosecond
          omega
        have room : nanosecond / 1000 < tenTo 6 := by
          change nanosecond / 1000 < 1000000
          omega
        rw [List.cons_append, takeFraction?_padded (by decide) (by decide) room noDigit, scale]
      · have scale : nanosecond * tenTo (9 - 9) = nanosecond := Nat.mul_one _
        rw [List.cons_append, takeFraction?_padded (by decide) (by decide) range noDigit, scale]

end Fraction

/-! ## Offsets -/

/-- What stands behind the clock in a timestamp gives an offset. -/
structure IsZone (zone : List Char) (offset : Int) : Prop where
  /-- It starts with what cannot belong to a fraction. -/
  stops : ∀ c ∈ zone.head?, c.isDigit = false ∧ c ≠ '.'
  /-- The offset is read from it. -/
  read : takeOffset? zone = some (offset, [])

/-- An offset in numbers. -/
theorem isZone_offsetText {offset : Int} (near : IsOffset offset) :
    IsZone (offsetText [':'] offset) offset := by
  obtain ⟨behind, ahead⟩ := near
  have hours : ∀ rest, takeDigits? 2 (padded 2 (offset.natAbs / 60) ++ rest) =
      some (offset.natAbs / 60, rest) := takeDigits?_two (by omega)
  have minute : offset.natAbs % 60 < 60 := by omega
  have minutes : takeDigits? 2 (padded 2 (offset.natAbs % 60)) =
      some (offset.natAbs % 60, []) := by
    have last := takeDigits?_two (Nat.lt_trans minute (by decide)) []
    rwa [List.append_nil] at last
  have colon : ∀ rest, takeOne? [':'] (':' :: rest) = some rest := fun _ => rfl
  by_cases negative : offset < 0
  · have text : offsetText [':'] offset = '-' :: (padded 2 (offset.natAbs / 60) ++
        ':' :: padded 2 (offset.natAbs % 60)) := by
      simp [offsetText, negative]
    constructor
    · rw [text]
      rintro c ⟨⟩
      decide
    · have letter : ∀ rest, takeOne? ['Z', 'z'] ('-' :: rest) = none := fun _ => rfl
      have sign : ∀ rest, takeOffsetSign? ('-' :: rest) = some (true, rest) := fun _ => rfl
      simp only [takeOffset?, text, letter, sign, hours, colon, minutes, minute, if_true,
        Option.bind_eq_bind, Option.bind_some]
      congr 2
      omega
  · have text : offsetText [':'] offset = '+' :: (padded 2 (offset.natAbs / 60) ++
        ':' :: padded 2 (offset.natAbs % 60)) := by
      simp [offsetText, negative]
    constructor
    · rw [text]
      rintro c ⟨⟩
      decide
    · have letter : ∀ rest, takeOne? ['Z', 'z'] ('+' :: rest) = none := fun _ => rfl
      have sign : ∀ rest, takeOffsetSign? ('+' :: rest) = some (false, rest) := fun _ => rfl
      simp only [takeOffset?, text, letter, sign, hours, colon, minutes, minute, if_true,
        Option.bind_eq_bind, Option.bind_some, Bool.false_eq_true, if_false]
      congr 2
      omega

/-- The letter for Greenwich. -/
theorem isZone_letter : IsZone ['Z'] 0 := by
  constructor
  · rintro c ⟨⟩
    decide
  · rfl

/-! ## Timestamps -/

namespace Moment

/-- What follows a part that is read goes on with what was read. -/
theorem bind_read {α β : Type} {part : Option α} {value : α} (read : part = some value)
    (next : α → Option β) : (part >>= next) = next value := by
  rw [read]
  rfl

/-- A timestamp is read as the moment that its parts give. -/
theorem read?_localText (moment : Moment) {zone : List Char} (isZone : IsZone zone moment.offset) :
    read? (moment.localText ++ zone) = some moment := by
  obtain ⟨stops, offset⟩ := isZone
  have year : moment.date.year < tenTo 4 := Nat.lt_succ_of_le moment.date.legal.1
  have month : moment.date.month < 100 := by
    have legal := moment.date.legal.2.2.1
    omega
  have day : moment.date.day < 100 := by
    have legal := moment.date.legal.2.2.2.2
    have longest : daysInMonth moment.date.year moment.date.month ≤ 31 := by
      unfold daysInMonth
      split
      · split <;> omega
      all_goals omega
    omega
  obtain ⟨hour, minute, second, fraction⟩ := moment.clock.legal
  have date : Date.of? moment.date.year moment.date.month moment.date.day = some moment.date :=
    dif_pos moment.date.legal
  have clock : Clock.of? moment.clock.hour moment.clock.minute moment.clock.second
      moment.clock.nanosecond = some moment.clock :=
    dif_pos moment.clock.legal
  have whole : of? (some moment.date) (some moment.clock) moment.offset = some moment :=
    dif_pos moment.near
  have hyphen : ∀ rest, takeOne? ['-'] ('-' :: rest) = some rest := fun _ => rfl
  have letter : ∀ rest, takeOne? ['T', 't', ' '] ('T' :: rest) = some rest := fun _ => rfl
  have colon : ∀ rest, takeOne? [':'] (':' :: rest) = some rest := fun _ => rfl
  have text : moment.localText ++ zone = padded 4 moment.date.year ++
      '-' :: (padded 2 moment.date.month ++ '-' :: (padded 2 moment.date.day ++
        'T' :: (padded 2 moment.clock.hour ++ ':' :: (padded 2 moment.clock.minute ++
          ':' :: (padded 2 moment.clock.second ++
            (shortFraction moment.clock.nanosecond ++ zone)))))) := by
    simp [localText]
  rw [text, read?]
  refine (bind_read (takeDigits?_padded (by decide) year _) _).trans ?_
  refine (bind_read (hyphen _) _).trans ?_
  refine (bind_read (takeDigits?_two month _) _).trans ?_
  refine (bind_read (hyphen _) _).trans ?_
  refine (bind_read (takeDigits?_two day _) _).trans ?_
  refine (bind_read (letter _) _).trans ?_
  refine (bind_read (takeDigits?_two (Nat.lt_trans hour (by decide)) _) _).trans ?_
  refine (bind_read (colon _) _).trans ?_
  refine (bind_read (takeDigits?_two (Nat.lt_trans minute (by decide)) _) _).trans ?_
  refine (bind_read (colon _) _).trans ?_
  refine (bind_read (takeDigits?_two (Nat.lt_of_le_of_lt second (by decide)) _) _).trans ?_
  refine (bind_read (takeFraction?_shortFraction fraction stops) _).trans ?_
  refine (bind_read offset _).trans ?_
  rw [date, clock]
  exact whole

/-- A moment is read from its timestamp, with its offset. -/
theorem ofText?_text (moment : Moment) : ofText? moment.text = some moment := by
  rw [ofText?, text, String.toList_ofList]
  exact moment.read?_localText (isZone_offsetText moment.near)

/-- A moment is read from its timestamp with a letter for Greenwich, with its offset. -/
theorem ofText?_letteredText (moment : Moment) : ofText? moment.letteredText = some moment := by
  rw [ofText?, letteredText, String.toList_ofList]
  apply moment.read?_localText
  split
  · rename_i greenwich
    rw [greenwich]
    exact isZone_letter
  · exact isZone_offsetText moment.near

end Moment

end NoteTemplate.Calendar
