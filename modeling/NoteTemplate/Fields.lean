/-!
# Named fields

Finite maps from names to things, held as lists of pairs in ascending order of
their names. Names are ordered by code points. `Fields.insert` keeps the order
and the uniqueness of names (`Fields.insert_sorted`), and looking a name up after
an insertion finds what was put there (`Fields.find?_insert`).
-/

namespace NoteTemplate

/-- Named things in ascending order of their names. -/
abbrev Fields (α : Type) := List (String × α)

namespace Fields

variable {α β : Type}

/-- Puts a thing under a name, in place of what was there. -/
def insert (name : String) (thing : α) : Fields α → Fields α
  | [] => [(name, thing)]
  | (other, old) :: rest =>
    if name < other then (name, thing) :: (other, old) :: rest
    else if name = other then (name, thing) :: rest
    else (other, old) :: insert name thing rest

/-- The thing under a name. -/
def find? (name : String) : Fields α → Option α
  | [] => none
  | (other, thing) :: rest => if name = other then some thing else find? name rest

/-- Removes the thing under a name. -/
def erase (name : String) : Fields α → Fields α
  | [] => []
  | (other, thing) :: rest =>
    if name = other then rest else (other, thing) :: erase name rest

/-- Whether there is a thing under a name. -/
def contains (fields : Fields α) (name : String) : Bool := (find? name fields).isSome

/-- The names in ascending order. -/
def names (fields : Fields α) : List String := fields.map Prod.fst

/-- Puts things under their names one after another; of equal names the last wins. -/
def extend (fields : Fields α) (more : List (String × α)) : Fields α :=
  more.foldl (fun built (name, thing) => insert name thing built) fields

/-- Collects named things in any order; of equal names the last wins. -/
def ofList (named : List (String × α)) : Fields α := extend [] named

/-- The names ascend strictly, so none occurs twice. -/
def Sorted (fields : Fields α) : Prop := fields.Pairwise fun left right => left.1 < right.1

/-- A looked-up name after an insertion: the new thing under its own name, and
what was there before under every other. -/
theorem find?_insert (name other : String) (thing : α) (fields : Fields α) :
    find? other (insert name thing fields) =
      if other = name then some thing else find? other fields := by
  induction fields with
  | nil => simp [insert, find?]
  | cons head rest ih =>
    obtain ⟨key, old⟩ := head
    unfold insert
    by_cases before : name < key
    · simp [before, find?]
    · by_cases same : name = key
      · subst same
        by_cases found : other = name <;> simp [find?, found]
      · by_cases here : other = key
        · subst here
          simp [before, same, find?, Ne.symm same]
        · simp [before, same, find?, here, ih]

/-- A name that is looked up with success is one of the names. -/
theorem mem_names_of_find? {name : String} {fields : Fields α}
    (found : (find? name fields).isSome) : name ∈ fields.names := by
  induction fields with
  | nil => simp [find?] at found
  | cons head rest ih =>
    obtain ⟨key, thing⟩ := head
    unfold find? at found
    split at found
    · rename_i same
      simp [names, same]
    · exact List.mem_cons_of_mem _ (ih found)

/-- Every name after an insertion is the new one or was there before. -/
theorem mem_insert {name : String} {thing : α} {fields : Fields α} {entry : String × α}
    (h : entry ∈ insert name thing fields) : entry = (name, thing) ∨ entry ∈ fields := by
  induction fields with
  | nil => simpa [insert] using h
  | cons head rest ih =>
    obtain ⟨key, old⟩ := head
    unfold insert at h
    split at h
    · simpa using h
    · split at h
      · rcases List.mem_cons.1 h with same | later
        · exact .inl same
        · exact .inr (List.mem_cons_of_mem _ later)
      · rcases List.mem_cons.1 h with same | later
        · exact .inr (same ▸ List.mem_cons_self)
        · exact (ih later).imp id (List.mem_cons_of_mem _)

/-- The names after an insertion are the new one and those that were there before. -/
theorem mem_names_insert {name other : String} {thing : α} {fields : Fields α} :
    other ∈ (insert name thing fields).names ↔ other = name ∨ other ∈ fields.names := by
  simp only [names]
  induction fields with
  | nil => simp [insert]
  | cons head rest ih =>
    obtain ⟨key, old⟩ := head
    unfold insert
    split
    · simp only [List.map_cons, List.mem_cons]
    · split
      · rename_i same
        simp only [List.map_cons, List.mem_cons, same, or_self_left]
      · simp only [List.map_cons, List.mem_cons, ih, or_left_comm]

/-- An insertion keeps the names in strictly ascending order. -/
theorem insert_sorted {name : String} {thing : α} {fields : Fields α} (h : Sorted fields) :
    Sorted (insert name thing fields) := by
  induction fields with
  | nil => simp [insert, Sorted]
  | cons head rest ih =>
    obtain ⟨key, old⟩ := head
    obtain ⟨above, tail⟩ := List.pairwise_cons.1 h
    unfold insert
    split
    · rename_i before
      refine List.pairwise_cons.2 ⟨fun entry found => ?_, h⟩
      rcases List.mem_cons.1 found with rfl | later
      · exact before
      · exact String.lt_trans before (above entry later)
    · rename_i notBefore
      split
      · rename_i same
        subst same
        exact List.pairwise_cons.2 ⟨above, tail⟩
      · rename_i different
        refine List.pairwise_cons.2 ⟨fun entry found => ?_, ih tail⟩
        rcases mem_insert found with rfl | later
        · rcases String.le_total key name with le | le
          · exact Decidable.byContradiction fun notLess =>
              different (String.le_antisymm (String.not_lt.1 notLess) le)
          · exact absurd (Decidable.byContradiction fun notLess =>
              different (String.le_antisymm le (String.not_lt.1 notLess))) notBefore
        · exact above entry later

/-- Every name after a removal was there before. -/
theorem mem_of_mem_erase {name : String} {fields : Fields α} {entry : String × α}
    (h : entry ∈ erase name fields) : entry ∈ fields := by
  induction fields with
  | nil => exact h
  | cons head rest ih =>
    obtain ⟨key, thing⟩ := head
    unfold erase at h
    split at h
    · exact List.mem_cons_of_mem _ h
    · rcases List.mem_cons.1 h with same | later
      · exact same ▸ List.mem_cons_self
      · exact List.mem_cons_of_mem _ (ih later)

/-- A removal keeps the names in strictly ascending order. -/
theorem erase_sorted {name : String} {fields : Fields α} (h : Sorted fields) :
    Sorted (erase name fields) := by
  induction fields with
  | nil => exact h
  | cons head rest ih =>
    obtain ⟨above, tail⟩ := List.pairwise_cons.1 h
    unfold erase
    split
    · exact tail
    · exact List.pairwise_cons.2 ⟨fun entry found => above entry (mem_of_mem_erase found), ih tail⟩

/-- A name below all others is not found among them. -/
theorem find?_eq_none_of_lt {name : String} {fields : Fields α}
    (h : ∀ entry ∈ fields, name < entry.1) : find? name fields = none := by
  induction fields with
  | nil => rfl
  | cons head rest ih =>
    obtain ⟨key, thing⟩ := head
    have below : name < key := h _ List.mem_cons_self
    unfold find?
    rw [if_neg (fun same => String.lt_irrefl _ (same ▸ below))]
    exact ih fun entry later => h entry (List.mem_cons_of_mem _ later)

/-- A looked-up name after a removal: nothing under the removed name, and what was there
before under every other. -/
theorem find?_erase {name other : String} {fields : Fields α} (h : Sorted fields) :
    find? other (erase name fields) = if other = name then none else find? other fields := by
  induction fields with
  | nil => simp [erase, find?]
  | cons head rest ih =>
    obtain ⟨key, thing⟩ := head
    obtain ⟨above, tail⟩ := List.pairwise_cons.1 h
    unfold erase
    by_cases here : name = key
    · subst here
      rw [if_pos rfl]
      by_cases same : other = name
      · subst same
        rw [if_pos rfl, find?_eq_none_of_lt above]
      · rw [if_neg same, find?, if_neg same]
    · rw [if_neg here, find?, find?, ih tail]
      by_cases same : other = key
      · subst same
        rw [if_pos rfl, if_pos rfl, if_neg (Ne.symm here)]
      · rw [if_neg same, if_neg same]

end Fields

end NoteTemplate
