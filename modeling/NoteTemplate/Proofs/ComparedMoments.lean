import NoteTemplate.Proofs.ComparedWords
import NoteTemplate.Proofs.ReadNumerals

/-!
# Comparisons of moments

Moments are ordered by their instants, but they count as equal as well when their clocks show the
same date and the same time to the second, since then they are displayed alike
(`display_moment_iff`). So the comparisons of two moments fit together and agree with the instants,
unless the clocks show the same second at different instants (`judge_moments`).
-/

namespace NoteTemplate

open Calendar (Moment padded write_year)
open Number (isDigit_of_mem_padded)

/-! ## Instants -/

namespace Calendar.Moment

/-- Billionths since the first of January 1970 at Greenwich, with room for a leap second behind
every second. -/
def instant (moment : Moment) : Int := moment.epochSecond * 2000000000 + moment.subsecond

/-- A leap second is the last that a second has room for. -/
theorem subsecond_lt (moment : Moment) : moment.subsecond < 2000000000 := by
  obtain ⟨-, -, -, fraction⟩ := moment.clock.legal
  unfold subsecond
  split <;> omega

/-- Moments are compared by their instants. -/
theorem compareInstant_eq (left right : Moment) :
    left.compareInstant right = compare left.instant right.instant := by
  have leftRange := left.subsecond_lt
  have rightRange := right.subsecond_lt
  unfold compareInstant instant
  rcases Int.lt_trichotomy left.epochSecond right.epochSecond with less | same | more
  · rw [Int.compare_eq_lt.2 less, Int.compare_eq_lt.2 (by omega)]
    rfl
  · rw [Int.compare_eq_eq.2 same, same]
    change compare left.subsecond right.subsecond = _
    rcases Nat.lt_trichotomy left.subsecond right.subsecond with less | same | more
    · rw [Nat.compare_eq_lt.2 less, Int.compare_eq_lt.2 (by omega)]
    · rw [Nat.compare_eq_eq.2 same, Int.compare_eq_eq.2 (by omega)]
    · rw [Nat.compare_eq_gt.2 more, Int.compare_eq_gt.2 (by omega)]
  · rw [Int.compare_eq_gt.2 more, Int.compare_eq_gt.2 (by omega)]
    rfl

/-- Moments denote the same instant when they have the same number. -/
theorem sameInstant_eq (left right : Moment) :
    left.sameInstant right = decide (left.instant = right.instant) := by
  rw [sameInstant, compareInstant_eq, Bool.eq_iff_iff, beq_iff_eq, decide_eq_true_eq,
    Int.compare_eq_eq]

/-- Two clocks show the same date and the same time to the second. -/
def SameReading (left right : Moment) : Prop :=
  left.date = right.date ∧ left.clock.hour = right.clock.hour ∧
    left.clock.minute = right.clock.minute ∧ left.clock.second = right.clock.second

instance (left right : Moment) : Decidable (SameReading left right) :=
  inferInstanceAs (Decidable (_ ∧ _))

end Calendar.Moment

/-! ## Clocks that show alike -/

/-- What is written in digits in front of another mark is read off the text, and so is what follows
the mark. -/
theorem padded_append_inj {width value other : Nat} {mark : Char} {rest more : List Char}
    (noDigit : mark.isDigit = false)
    (same : padded width value ++ mark :: rest = padded width other ++ mark :: more) :
    value = other ∧ rest = more := by
  have front : ∀ (value : Nat) (rest : List Char),
      (padded width value ++ mark :: rest).takeWhile Char.isDigit = padded width value := by
    intro value rest
    rw [List.takeWhile_append_of_pos fun c => isDigit_of_mem_padded,
      List.takeWhile_cons_of_neg (by rw [noDigit]; decide), List.append_nil]
  have digits : padded width value = padded width other := by
    rw [← front value rest, same, front other more]
  rw [digits] at same
  refine ⟨?_, (List.cons.inj (List.append_cancel_left same)).2⟩
  rw [← Number.ofDigits_padded width value, digits, Number.ofDigits_padded]

/-- A moment as it is displayed. -/
theorem display_moment (moment : Moment) :
    (Value.display (.moment moment)).toList =
      padded 4 moment.date.year ++ '-' :: (padded 2 moment.date.month ++
        '-' :: (padded 2 moment.date.day ++ ' ' :: (padded 2 moment.clock.hour ++
          ':' :: (padded 2 moment.clock.minute ++ ':' :: padded 2 moment.clock.second)))) := by
  have cut : Value.display (.moment moment) = String.ofList
      ((Calendar.zeroPadded .year).write moment ++ (['-'] ++ (padded 2 moment.date.month ++
        (['-'] ++ (padded 2 moment.date.day ++ ([' '] ++ (padded 2 moment.clock.hour ++
          ([':'] ++ (padded 2 moment.clock.minute ++ ([':'] ++ (padded 2 moment.clock.second ++
            []))))))))))) := rfl
  rw [cut, String.toList_ofList, write_year]
  simp

/-- Two moments are displayed alike when their clocks show the same date and the same time to the
second. -/
theorem display_moment_iff (left right : Moment) :
    Value.display (.moment left) = Value.display (.moment right) ↔ left.SameReading right := by
  rw [← String.toList_inj, display_moment, display_moment]
  constructor
  · intro same
    obtain ⟨year, same⟩ := padded_append_inj (by decide) same
    obtain ⟨month, same⟩ := padded_append_inj (by decide) same
    obtain ⟨day, same⟩ := padded_append_inj (by decide) same
    obtain ⟨hour, same⟩ := padded_append_inj (by decide) same
    obtain ⟨minute, same⟩ := padded_append_inj (by decide) same
    have second : left.clock.second = right.clock.second := by
      rw [← Number.ofDigits_padded 2 left.clock.second, same, Number.ofDigits_padded]
    have date : left.date = right.date := by
      cases leftDate : left.date
      cases rightDate : right.date
      simp only [leftDate, rightDate] at year month day
      simp only [year, month, day]
    exact ⟨date, hour, minute, second⟩
  · rintro ⟨date, hour, minute, second⟩
    rw [date, hour, minute, second]

namespace Template

/-- What the comparisons of two moments come to. -/
def momentsCompared (left right : Moment) : Comparison → Bool
  | .equal => decide (left.instant = right.instant ∨ left.SameReading right)
  | .unequal => !decide (left.instant = right.instant ∨ left.SameReading right)
  | sign => sign.relates left.instant right.instant

/-- Moments are ordered by their instants, and are equal also when they are displayed alike. -/
theorem Comparison.holds_moments (sign : Comparison) (left right : Moment) :
    sign.holds (.moment left) (.moment right) = momentsCompared left right sign := by
  have ordered : compareValues (.moment left) (.moment right) =
      some (compare left.instant right.instant) := by
    rw [← Moment.compareInstant_eq]
    rfl
  have equal : valuesEqual (.moment left) (.moment right) =
      decide (left.instant = right.instant ∨ left.SameReading right) := by
    have unfolded : valuesEqual (.moment left) (.moment right) =
        (left.sameInstant right ||
          Value.display (.moment left) == Value.display (.moment right)) := rfl
    rw [unfolded, Moment.sameInstant_eq, Bool.eq_iff_iff, Bool.or_eq_true, beq_iff_eq,
      display_moment_iff, decide_eq_true_eq, decide_eq_true_eq]
  cases sign with
  | equal => exact equal
  | unequal => exact congrArg (! ·) equal
  | atLeast | atMost | greater | less => exact Comparison.holds_of_ordered rfl ordered

/-- The comparisons of two moments agree with their instants unless these differ and the clocks
show the same second. -/
theorem momentsCompared_eq {left right : Moment}
    (clear : left.SameReading right → left.instant = right.instant) (sign : Comparison) :
    momentsCompared left right sign = sign.relates left.instant right.instant := by
  have equal : (left.instant = right.instant ∨ left.SameReading right) ↔
      left.instant = right.instant :=
    ⟨fun either => either.elim id clear, .inl⟩
  cases sign <;> simp [momentsCompared, Comparison.relates, equal]

/-- The comparisons of two moments fit together unless their clocks show the same second at
different instants. -/
theorem consistent_momentsCompared_iff (left right : Moment) :
    Consistent (momentsCompared left right) ↔
      (left.SameReading right → left.instant = right.instant) := by
  constructor
  · intro consistent alike
    have equal : momentsCompared left right .equal = true := decide_eq_true (.inr alike)
    have notLess : ¬ left.instant < right.instant := by
      intro less
      exact consistent.apart.1 ⟨decide_eq_true less, equal⟩
    have notGreater : ¬ right.instant < left.instant := by
      intro greater
      exact consistent.apart.2.2 ⟨equal, decide_eq_true greater⟩
    omega
  · intro clear
    have same : momentsCompared left right =
        fun sign => sign.relates left.instant right.instant :=
      funext (momentsCompared_eq clear)
    rw [same]
    exact consistent_relates _ _

/-- The comparisons of two bound moments are judged by their instants, except that moments whose
clocks show the same second are equal as well. They fit together, and are the relations of the
instants, exactly if the clocks do not show the same second at different instants. -/
theorem judge_moments {lookup : Lookup} {left right : List Char} {first second : Moment}
    (standsLeft : StandsFor lookup left (.moment first))
    (standsRight : StandsFor lookup right (.moment second)) :
    JudgedAs lookup left right (momentsCompared first second) ∧
      (Consistent (momentsCompared first second) ↔
        (first.SameReading second → first.instant = second.instant)) ∧
      (JudgedAs lookup left right (fun sign => sign.relates first.instant second.instant) ↔
        (first.SameReading second → first.instant = second.instant)) := by
  have judged : JudgedAs lookup left right (momentsCompared first second) := by
    rw [judgedAs_iff standsLeft standsRight]
    intro sign
    exact sign.holds_moments first second
  refine ⟨judged, consistent_momentsCompared_iff first second, ?_⟩
  rw [judgedAs_iff standsLeft standsRight]
  simp only [Comparison.holds_moments]
  constructor
  · intro same
    rw [← consistent_momentsCompared_iff, funext same]
    exact consistent_relates _ _
  · exact momentsCompared_eq

/-- Noon at Greenwich, and a quarter of a second later on a clock three hours ahead. -/
theorem noon_judge :
    let noon : Moment := ⟨⟨2024, 2, 29, by decide⟩, ⟨12, 0, 0, 0, by decide⟩, 0, by decide⟩
    let later : Moment :=
      ⟨⟨2024, 2, 29, by decide⟩, ⟨15, 0, 0, 250000000, by decide⟩, 180, by decide⟩
    let bound : Context := .ofList [("sent", .moment noon), ("edited", .moment later)]
    Consistent (momentsCompared noon later) ∧
      judge bound.lookup "sent<edited" = .ok true ∧
        judge bound.lookup "sent == edited" = .ok false := by
  intro noon later bound
  have sent : StandsFor bound.lookup "sent".toList (.moment noon) :=
    ⟨.word (by decide) (List.all_eq_true.1 rfl) (by decide), .inr ⟨by rfl, by rfl⟩⟩
  have edited : StandsFor bound.lookup "edited".toList (.moment later) :=
    ⟨.word (by decide) (List.all_eq_true.1 rfl) (by decide), .inr ⟨by rfl, by rfl⟩⟩
  have apart : ¬ noon.SameReading later := by decide +kernel
  obtain ⟨judged, consistent, -⟩ := judge_moments sent edited
  have less : Compares "sent".toList .less "edited".toList "sent<edited".toList :=
    ⟨[], [], [], [], nofun, by decide⟩
  have equal : Compares "sent".toList .equal "edited".toList "sent == edited".toList :=
    ⟨[], [' '], [' '], [], List.all_eq_true.1 rfl, by decide⟩
  refine ⟨consistent.2 fun alike => absurd alike apart, ?_, ?_⟩
  · have earlier : momentsCompared noon later .less = true := by decide +kernel
    rw [← earlier]
    exact judged .less _ less
  · have different : momentsCompared noon later .equal = false := by decide +kernel
    rw [← different]
    exact judged .equal _ equal

-- Noon on two clocks at different offsets: equal, and the one ahead is less than the other as well.
example :
    let greenwich : Moment := ⟨⟨2024, 2, 29, by decide⟩, ⟨12, 0, 0, 0, by decide⟩, 0, by decide⟩
    let ahead : Moment := { greenwich with offset := 180, near := by decide }
    momentsCompared ahead greenwich .equal = true ∧
      momentsCompared ahead greenwich .less = true := by
  decide +kernel

end Template

end NoteTemplate
