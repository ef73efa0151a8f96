import NoteTemplate.Json.Reader
import NoteTemplate.Proofs.FiniteDoubles

/-!
# JSON values as JSON has them

The integers of a JSON value fit sixty-four bits, signed or unsigned, and its doubles are finite.
Whatever is read from a text is such a value (`Json.isLegal_of_parse`): an integer that does not fit
is read as a double, and a number beyond all doubles is a fault.
-/

namespace NoteTemplate

namespace Json

/-! ## Legal values -/

mutual

/-- Whether the integers of a value fit sixty-four bits, signed or unsigned, and its doubles are
finite. -/
def isLegal : Json → Bool
  | .null | .bool _ | .string _ => true
  | .int value => decide (-(Number.twoTo 63 : Int) ≤ value ∧ value < Number.twoTo 64)
  | .float value => value.isFinite
  | .array items => areLegalItems items
  | .object fields => areLegalFields fields

/-- Whether the items of a list are legal. -/
def areLegalItems : List Json → Bool
  | [] => true
  | item :: rest => isLegal item && areLegalItems rest

/-- Whether the fields of an object are legal. -/
def areLegalFields : List (String × Json) → Bool
  | [] => true
  | (_, item) :: rest => isLegal item && areLegalFields rest

end

/-- Items are legal one by one. -/
theorem areLegalItems_iff {items : List Json} :
    areLegalItems items = true ↔ ∀ item ∈ items, item.isLegal = true := by
  induction items with
  | nil => simp [areLegalItems]
  | cons item rest ih => simp [areLegalItems, ih]

/-- Fields are legal one by one. -/
theorem areLegalFields_iff {fields : Fields Json} :
    areLegalFields fields = true ↔ ∀ field ∈ fields, field.2.isLegal = true := by
  induction fields with
  | nil => simp [areLegalFields]
  | cons field rest ih =>
    obtain ⟨name, item⟩ := field
    simp [areLegalFields, ih]

/-! ## Numbers -/

section Numbers

variable {negative : Bool} {json : Json} {text unread : List Char}

/-- A number that fits sixty-four bits, signed or unsigned, is legal. -/
theorem isLegal_int {value : Int}
    (range : -9223372036854775808 ≤ value ∧ value < 18446744073709551616) :
    (Json.int value).isLegal = true := by
  have limits : (Number.twoTo 63 : Int) = 9223372036854775808 ∧
      (Number.twoTo 64 : Int) = 18446744073709551616 := ⟨rfl, rfl⟩
  rw [isLegal, limits.1, limits.2]
  exact decide_eq_true range

/-- An integer that is read is legal. -/
theorem isLegal_ofInteger {value : Nat} (read : ofInteger negative value = some json) :
    json.isLegal = true := by
  have limits : Number.twoTo 63 = 9223372036854775808 ∧
      Number.largestCount = 18446744073709551615 := ⟨rfl, rfl⟩
  unfold ofInteger at read
  rw [limits.1, limits.2] at read
  split at read
  · split at read
    · cases read
      decide +kernel
    · split at read
      · cases read
        exact isLegal_int (by omega)
      · dsimp only at read
        split at read
        · rename_i finite
          cases read
          exact (Number.isFinite_neg _).trans finite
        · cases read
  · split at read
    · cases read
      exact isLegal_int (by omega)
    · dsimp only at read
      split at read
      · rename_i finite
        cases read
        exact finite
      · cases read

/-- A decimal that is read is legal. -/
theorem isLegal_ofDecimal {mantissa : Nat} {exponent : Int}
    (read : ofDecimal negative mantissa exponent = some json) : json.isLegal = true := by
  unfold ofDecimal at read
  dsimp only at read
  split at read
  · rename_i finite
    cases read
    cases negative with
    | true => exact (Number.isFinite_neg _).trans finite
    | false => exact finite
  · cases read

/-- A number that is in range is the one that was found. -/
theorem eq_of_inRange {value : Option Json} {rest : List Char}
    (read : inRange value rest = .ok (json, unread)) : value = some json := by
  unfold inRange at read
  split at read
  · cases read
    rfl
  · cases read

/-- A number with an exponent is legal. -/
theorem isLegal_readScale {mantissa places : Nat}
    (read : readScale negative mantissa places text = .ok (json, unread)) :
    json.isLegal = true := by
  unfold readScale at read
  split at read
  · split at read
    · exact isLegal_ofDecimal (eq_of_inRange read)
    · cases read
  · split at read
    · exact isLegal_ofDecimal (eq_of_inRange read)
    · cases read
  · exact isLegal_ofDecimal (eq_of_inRange read)

/-- A number with a fraction is legal. -/
theorem isLegal_readFraction {whole : List Char}
    (read : readFraction negative whole text = .ok (json, unread)) : json.isLegal = true := by
  unfold readFraction at read
  split at read
  · dsimp only at read
    split at read
    · cases read
    · exact isLegal_readScale read
  · exact isLegal_readScale read
  · exact isLegal_readScale read
  · exact isLegal_ofInteger (eq_of_inRange read)

/-- A number is legal. -/
theorem isLegal_readNumber (read : readNumber negative text = .ok (json, unread)) :
    json.isLegal = true := by
  unfold readNumber at read
  split at read
  · cases read
  · split at read
    · split at read
      · cases read
      · exact isLegal_readFraction read
    · exact isLegal_readFraction read
  · split at read
    · exact isLegal_readFraction read
    · cases read

/-- A word stands for the value that it is read for. -/
theorem eq_of_readWord {word : List Char} {value : Json}
    (read : readWord word value text = .ok (json, unread)) : json = value := by
  induction word generalizing text with
  | nil =>
    rw [readWord] at read
    cases read
    rfl
  | cons c more ih =>
    cases text with
    | nil => cases read
    | cons d rest =>
      rw [readWord] at read
      split at read
      · exact ih read
      · cases read

/-- A value that is no container is legal. -/
theorem isLegal_readScalar (read : readScalar text = .ok (json, unread)) : json.isLegal = true := by
  unfold readScalar at read
  split at read
  · split at read
    · cases read
      rfl
    · cases read
  · rw [eq_of_readWord read]
    rfl
  · rw [eq_of_readWord read]
    rfl
  · rw [eq_of_readWord read]
    rfl
  · exact isLegal_readNumber read
  · split at read
    · exact isLegal_readNumber read
    · cases read
  · cases read

end Numbers

/-! ## The run of the reader -/

/-- What a container holds so far is legal. -/
def Open.IsLegal : Open → Prop
  | .array reversed => areLegalItems reversed = true
  | .object fields _ => areLegalFields fields = true

/-- What may come next is legal: a value that is read already, or one that is still to be read. -/
def Expected.IsLegal (expected : Expected) : Prop :=
  ∀ value, expected = .nothing value → value.isLegal = true

/-- The reader holds legal values only. -/
def HoldsLegal (state : List Open × Expected) : Prop :=
  (∀ container ∈ state.1, container.IsLegal) ∧ state.2.IsLegal

/-- A legal value can be handed to containers of legal values. -/
theorem holdsLegal_deliver {value : Json} {stack : List Open} (legal : value.isLegal = true)
    (within : ∀ container ∈ stack, container.IsLegal) : HoldsLegal (deliver value stack) := by
  cases stack with
  | nil =>
    refine ⟨nofun, ?_⟩
    rintro other ⟨⟩
    exact legal
  | cons container rest =>
    obtain ⟨first, others⟩ := List.forall_mem_cons.1 within
    cases container with
    | array reversed =>
      refine ⟨List.forall_mem_cons.2 ⟨?_, others⟩, nofun⟩
      exact Bool.and_eq_true_iff.2 ⟨legal, first⟩
    | object fields name =>
      refine ⟨List.forall_mem_cons.2 ⟨areLegalFields_iff.2 fun field member => ?_, others⟩, nofun⟩
      rcases Fields.mem_insert member with rfl | before
      · exact legal
      · exact areLegalFields_iff.1 first field before

/-- A container of legal values is legal when it is closed. -/
theorem holdsLegal_close {stack : List Open} (within : ∀ container ∈ stack, container.IsLegal) :
    HoldsLegal (close stack) := by
  cases stack with
  | nil =>
    refine ⟨nofun, ?_⟩
    rintro other ⟨⟩
    rfl
  | cons container rest =>
    obtain ⟨first, others⟩ := List.forall_mem_cons.1 within
    cases container with
    | array reversed =>
      have legal : (Json.array reversed.reverse).isLegal = true :=
        areLegalItems_iff.2 fun item member =>
          areLegalItems_iff.1 first item (List.mem_reverse.1 member)
      exact holdsLegal_deliver legal others
    | object fields name =>
      have legal : (Json.object fields).isLegal = true := first
      exact holdsLegal_deliver legal others

/-- One step of the reader keeps the values legal that it holds. -/
theorem holdsLegal_step {stack after : List Open} {expected next : Expected}
    {text unread : List Char} (within : ∀ container ∈ stack, container.IsLegal)
    (read : step stack expected text = .ok (after, next, unread)) : HoldsLegal (after, next) := by
  unfold step at read
  extract_lets value shut name at read
  have ofValue : value = .ok (after, next, unread) → HoldsLegal (after, next) := by
    intro read
    dsimp only [value] at read
    split at read
    · split at read
      · cases read
        exact ⟨List.forall_mem_cons.2 ⟨rfl, within⟩, nofun⟩
      · cases read
    · split at read
      · cases read
        exact ⟨List.forall_mem_cons.2 ⟨rfl, within⟩, nofun⟩
      · cases read
    · split at read
      · rename_i found
        cases read
        exact holdsLegal_deliver (isLegal_readScalar found) within
      · cases read
  have ofShut : ∀ rest, shut rest = .ok (after, next, unread) → HoldsLegal (after, next) := by
    rintro rest ⟨⟩
    exact holdsLegal_close within
  have ofName : ∀ rest, name rest = .ok (after, next, unread) → HoldsLegal (after, next) := by
    intro rest read
    dsimp only [name] at read
    split at read
    · cases read
    · split at read
      · obtain ⟨first, others⟩ := List.forall_mem_cons.1 within
        cases read
        exact ⟨List.forall_mem_cons.2 ⟨first, others⟩, nofun⟩
      · cases read
  clear_value value shut name
  -- A container ends, a name or a value is read, or a mark between two parts is passed.
  split at read
  all_goals first
    | exact ofValue read
    | exact ofShut _ read
    | exact ofName _ read
    | (cases read; exact ⟨within, nofun⟩)
    | cases read

/-- Whatever the reader ends with is legal. -/
theorem isLegal_run {steps : Nat} {stack : List Open} {expected : Expected} {text : List Char}
    {json : Json} (holds : HoldsLegal (stack, expected))
    (read : run steps stack expected text = .ok json) : json.isLegal = true := by
  induction steps generalizing stack expected text with
  | zero =>
    unfold run at read
    split at read
    · split at read
      · cases read
        exact holds.2 _ rfl
      · cases read
    · cases read
  | succ steps ih =>
    unfold run at read
    split at read
    · split at read
      · cases read
        exact holds.2 _ rfl
      · cases read
    · dsimp only at read
      split at read
      · rename_i found
        exact ih (holdsLegal_step holds.1 found) read
      · cases read

/-- Whatever is read from a text is legal. -/
theorem isLegal_of_parse {text : String} {json : Json} (read : parse text = .ok json) :
    json.isLegal = true := by
  unfold parse at read
  dsimp only at read
  split at read
  · rename_i found
    cases read
    have start : HoldsLegal ([], .value) := by
      refine ⟨List.forall_mem_nil _, ?_⟩
      rintro value ⟨⟩
    exact isLegal_run start found
  · cases read

end Json

end NoteTemplate
