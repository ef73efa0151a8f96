/-!
# Bounded collections that forget

A collection of named things, the most recently stored first. It holds a limited number
of things, and storing one more makes it forget the one that was stored least recently.
Looking a thing up changes nothing.
-/

namespace NoteTemplate

/-- Named things, the most recently stored first. -/
abbrev Recent (α : Type) := List (String × α)

namespace Recent

variable {α : Type}

/-- The thing of a name. -/
def find? (name : String) (recent : Recent α) : Option α := recent.lookup name

/-- Forgets the thing of a name. -/
def erase (name : String) (recent : Recent α) : Recent α := recent.filter (·.1 != name)

/-- Stores a thing under a name, in place of what was there, and keeps at most `limit`
things. -/
def store (limit : Nat) (name : String) (thing : α) (recent : Recent α) : Recent α :=
  ((name, thing) :: erase name recent).take limit

/-- No more things are kept than allowed. -/
theorem store_length (limit : Nat) (name : String) (thing : α) (recent : Recent α) :
    (store limit name thing recent).length ≤ limit :=
  List.length_take_le limit _

/-- The first thing is found under its own name, and under no other. -/
theorem find?_cons (key other : String) (thing : α) (rest : Recent α) :
    find? other ((key, thing) :: rest) = if other = key then some thing else find? other rest := by
  by_cases same : other = key
  · simp [find?, same]
  · simp [find?, List.lookup_cons, beq_eq_false_iff_ne.2 same, same]

/-- A name that was forgotten is not found; every other one is found as before. -/
theorem find?_erase (name other : String) (recent : Recent α) :
    find? other (erase name recent) = if other = name then none else find? other recent := by
  induction recent with
  | nil => simp [find?, erase]
  | cons entry rest ih =>
    obtain ⟨key, thing⟩ := entry
    by_cases gone : key = name
    · have skipped : erase name ((key, thing) :: rest) = erase name rest := by simp [erase, gone]
      rw [skipped, ih, find?_cons, gone]
      by_cases same : other = name <;> simp [same]
    · have kept : erase name ((key, thing) :: rest) = (key, thing) :: erase name rest := by
        simp [erase, gone]
      rw [kept, find?_cons, find?_cons, ih]
      by_cases same : other = key
      · simp [same, gone]
      · simp [same]

/-- What is found in a front part is found in the whole. -/
theorem find?_take {name : String} {thing : α} {recent : Recent α} {limit : Nat}
    (found : find? name (recent.take limit) = some thing) : find? name recent = some thing := by
  induction recent generalizing limit with
  | nil => simp [find?] at found
  | cons entry rest ih =>
    obtain ⟨key, other⟩ := entry
    cases limit with
    | zero => simp [find?] at found
    | succ limit =>
      rw [List.take_succ_cons, find?_cons] at found
      rw [find?_cons]
      split at found
      · rw [if_pos (by assumption), found]
      · rw [if_neg (by assumption)]
        exact ih found

/-- What is found behind a store is the thing that was stored, or was found before. -/
theorem find?_store {limit : Nat} {name other : String} {thing found : α} {recent : Recent α}
    (h : find? other (store limit name thing recent) = some found) :
    other = name ∧ found = thing ∨ find? other recent = some found := by
  have whole := find?_take h
  rw [find?_cons] at whole
  split at whole
  · rename_i same
    exact .inl ⟨same, (Option.some.inj whole).symm⟩
  · rename_i different
    rw [find?_erase, if_neg different] at whole
    exact .inr whole

end Recent

end NoteTemplate
