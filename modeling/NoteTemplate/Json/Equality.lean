import NoteTemplate.Json.Basic

/-!
# Equality of JSON values

Whether two JSON values are equal is decided part by part. Doubles are equal when they are the
same double.
-/

namespace NoteTemplate.Json

mutual

/-- Whether two values are equal in all parts. -/
def same : Json → Json → Bool
  | .null, .null => true
  | .bool left, .bool right => decide (left = right)
  | .int left, .int right => decide (left = right)
  | .float left, .float right => decide (left = right)
  | .string left, .string right => decide (left = right)
  | .array left, .array right => sameItems left right
  | .object left, .object right => sameFields left right
  | _, _ => false

/-- Whether two lists of values are equal. -/
def sameItems : List Json → List Json → Bool
  | [], [] => true
  | left :: lefts, right :: rights => same left right && sameItems lefts rights
  | _, _ => false

/-- Whether two lists of named values are equal. -/
def sameFields : List (String × Json) → List (String × Json) → Bool
  | [], [] => true
  | (leftName, left) :: lefts, (rightName, right) :: rights =>
    decide (leftName = rightName) && same left right && sameFields lefts rights
  | _, _ => false

end

mutual

/-- Values that are the same in all parts are equal. -/
theorem eq_of_same : ∀ left right : Json, same left right = true → left = right
  | .null, right, checked => by cases right <;> simp_all [same]
  | .bool _, right, checked => by cases right <;> simp_all [same]
  | .int _, right, checked => by cases right <;> simp_all [same]
  | .float _, right, checked => by cases right <;> simp_all [same]
  | .string _, right, checked => by cases right <;> simp_all [same]
  | .array items, right, checked => by
    cases right with
    | array others =>
      simp only [same] at checked
      rw [items_eq_of_same items others checked]
    | _ => simp [same] at checked
  | .object fields, right, checked => by
    cases right with
    | object others =>
      simp only [same] at checked
      rw [fields_eq_of_same fields others checked]
    | _ => simp [same] at checked

/-- Lists of values that are the same are equal. -/
theorem items_eq_of_same :
    ∀ left right : List Json, sameItems left right = true → left = right
  | [], right, checked => by cases right <;> simp_all [sameItems]
  | item :: rest, right, checked => by
    cases right with
    | nil => simp [sameItems] at checked
    | cons other others =>
      simp only [sameItems, Bool.and_eq_true] at checked
      rw [eq_of_same item other checked.1, items_eq_of_same rest others checked.2]

/-- Lists of named values that are the same are equal. -/
theorem fields_eq_of_same :
    ∀ left right : List (String × Json), sameFields left right = true → left = right
  | [], right, checked => by cases right <;> simp_all [sameFields]
  | (name, value) :: rest, right, checked => by
    cases right with
    | nil => simp [sameFields] at checked
    | cons other others =>
      obtain ⟨otherName, otherValue⟩ := other
      simp only [sameFields, Bool.and_eq_true, decide_eq_true_eq] at checked
      rw [checked.1.1, eq_of_same value otherValue checked.1.2,
        fields_eq_of_same rest others checked.2]

end

mutual

/-- A value is the same as itself. -/
theorem same_refl : ∀ value : Json, same value value = true
  | .null | .bool _ | .int _ | .float _ | .string _ => by simp [same]
  | .array items => by simp only [same, sameItems_refl items]
  | .object fields => by simp only [same, sameFields_refl fields]

/-- A list of values is the same as itself. -/
theorem sameItems_refl : ∀ items : List Json, sameItems items items = true
  | [] => by simp only [sameItems]
  | item :: rest => by simp only [sameItems, same_refl item, sameItems_refl rest, Bool.and_self]

/-- A list of named values is the same as itself. -/
theorem sameFields_refl : ∀ fields : List (String × Json), sameFields fields fields = true
  | [] => by simp only [sameFields]
  | (name, value) :: rest => by
    simp only [sameFields, same_refl value, sameFields_refl rest, decide_true, Bool.and_self]

end

/-- Equality of JSON values is decidable. -/
instance : DecidableEq Json := fun left right =>
  decidable_of_iff (same left right = true)
    ⟨eq_of_same left right, fun equal => equal ▸ same_refl left⟩

end NoteTemplate.Json
