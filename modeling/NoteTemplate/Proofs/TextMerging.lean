import NoteTemplate.Proofs.BlockOutline

/-!
# Filling in a parent is substitution

On outlines, a child fills a parent in by replacing the bodies of the parent's outermost
blocks that the child defines. `merge` does the same to texts: it writes out the outline that
substitution leads to. Since the tags stay, the result is read as exactly that outline again.
-/

namespace NoteTemplate.Template

namespace Outline

/-- The names and bodies of all blocks, each block before those in its body. -/
def definitions : Outline → List (String × Outline)
  | plain _ => []
  | block _ _ name body _ after => (name, body) :: (body.definitions ++ after.definitions)

/-- The body of the first block of a name. -/
def body? (outline : Outline) (name : String) : Option Outline :=
  (outline.definitions.find? (·.1 = name)).map Prod.snd

/-- A parent with the bodies of its outermost blocks that a child defines replaced by those
of the child. -/
def filledFrom : Outline → Outline → Outline
  | plain text, _ => plain text
  | block before openingTag name body closingTag after, child =>
    block before openingTag name ((child.body? name).getD (body.filledFrom child)) closingTag
      (after.filledFrom child)

/-- The bodies of the blocks of a well formed outline are well formed. -/
theorem WellFormed.definitions {outline : Outline} (formed : outline.WellFormed) :
    ∀ entry ∈ outline.definitions, entry.2.WellFormed := by
  induction formed with
  | plain => simp [Outline.definitions]
  | block _ _ here _ _ inner outer =>
    intro entry member
    rcases List.mem_cons.1 member with rfl | later
    · exact here
    · rcases List.mem_append.1 later with within | after
      · exact inner entry within
      · exact outer entry after

/-- The first body of a name in a well formed outline is well formed. -/
theorem WellFormed.body? {outline body : Outline} {name : String} (formed : outline.WellFormed)
    (found : outline.body? name = some body) : body.WellFormed := by
  obtain ⟨entry, first, rfl⟩ := Option.map_eq_some_iff.1 found
  exact formed.definitions entry (List.mem_of_find?_eq_some first)

/-- Filling in a well formed parent from a well formed child leads to a well formed outline. -/
theorem WellFormed.filledFrom {parent child : Outline} (formed : parent.WellFormed)
    (childFormed : child.WellFormed) : (parent.filledFrom child).WellFormed := by
  induction formed with
  | plain free => exact .plain free
  | @block before openingTag name body closingTag after free opens _ closes _ inner outer =>
    refine .block free opens ?_ closes outer
    cases found : child.body? name with
    | none => exact inner
    | some new => exact childFormed.body? found

/-- Filling in from the same child again changes nothing. -/
theorem filledFrom_filledFrom (parent child : Outline) :
    (parent.filledFrom child).filledFrom child = parent.filledFrom child := by
  induction parent with
  | plain => rfl
  | block before openingTag name body closingTag after inner outer =>
    simp only [filledFrom, outer]
    cases child.body? name with
    | none => simp only [Option.getD_none, inner]
    | some new => rfl

end Outline

/-- Plain parts in a body are its text. -/
theorem bodyBefore_literals {parts : List Mark} (rest : List Mark) (depth : Nat)
    (literal : ∀ mark ∈ parts, ∃ piece, mark = .literal piece) :
    bodyBefore depth (parts ++ rest) = sourceOf parts ++ bodyBefore depth rest := by
  induction parts with
  | nil => rfl
  | cons mark parts ih =>
    obtain ⟨piece, rfl⟩ := literal mark List.mem_cons_self
    have later := ih fun other member => literal other (List.mem_cons_of_mem _ member)
    simp only [List.cons_append, bodyBefore, later, sourceOf, List.flatMap_cons, Mark.source,
      List.append_assoc]

/-- Plain parts define no blocks. -/
theorem definitions_literals {parts : List Mark} (rest : List Mark)
    (literal : ∀ mark ∈ parts, ∃ piece, mark = .literal piece) :
    definitions (parts ++ rest) = definitions rest := by
  induction parts with
  | nil => rfl
  | cons mark parts ih =>
    obtain ⟨piece, rfl⟩ := literal mark List.mem_cons_self
    exact ih fun other member => literal other (List.mem_cons_of_mem _ member)

/-- Plain parts are written as they are, unless they are left out. -/
theorem fill_literals {parts : List Mark} (bodies : Fields (List Char)) (rest : List Mark)
    (literal : ∀ mark ∈ parts, ∃ piece, mark = .literal piece) :
    fill bodies none (parts ++ rest) = sourceOf parts ++ fill bodies none rest ∧
      ∀ depth, fill bodies (some depth) (parts ++ rest) = fill bodies (some depth) rest := by
  induction parts with
  | nil => exact ⟨rfl, fun _ => rfl⟩
  | cons mark parts ih =>
    obtain ⟨piece, rfl⟩ := literal mark List.mem_cons_self
    obtain ⟨written, leftOut⟩ :=
      ih fun other member => literal other (List.mem_cons_of_mem _ member)
    constructor
    · simp only [List.cons_append, fill, written, sourceOf, List.flatMap_cons, List.append_assoc]
    · intro depth
      simp only [List.cons_append, fill, leftOut]

namespace Outline.WellFormed

variable {outline child : Outline}

/-- The body that an outline stands in has its text. -/
theorem bodyBefore_append (formed : outline.WellFormed) :
    ∀ (depth : Nat) (rest : List Mark),
      bodyBefore depth (outline.parts ++ rest) = outline.source ++ bodyBefore depth rest := by
  induction formed with
  | plain free =>
    intro depth rest
    rw [parts, bodyBefore_literals rest depth free.literal, sourceOf_marks, source]
  | block free _ _ _ _ inner outer =>
    intro depth rest
    rw [parts, List.append_assoc, bodyBefore_literals _ depth free.literal, sourceOf_marks, source]
    simp only [List.cons_append, List.append_assoc, bodyBefore, inner, outer]

/-- The blocks of an outline are defined by their texts. -/
theorem definitions_append (formed : outline.WellFormed) :
    ∀ rest : List Mark, Template.definitions (outline.parts ++ rest) =
      outline.definitions.map (fun entry => (entry.1, entry.2.source)) ++
        Template.definitions rest := by
  induction formed with
  | plain free => exact fun rest => definitions_literals rest free.literal
  | block free _ formed _ _ inner outer =>
    intro rest
    rw [parts, List.append_assoc, definitions_literals _ free.literal]
    simp only [List.cons_append, List.append_assoc, Template.definitions, inner, outer,
      formed.bodyBefore_append, bodyBefore, Outline.definitions, List.map_cons, List.map_append,
      List.append_nil]

/-- Nothing of an outline is written while it is left out. -/
theorem fill_leaving (formed : outline.WellFormed) (bodies : Fields (List Char)) :
    ∀ (depth : Nat) (rest : List Mark),
      fill bodies (some depth) (outline.parts ++ rest) = fill bodies (some depth) rest := by
  induction formed with
  | plain free => exact fun depth rest => (fill_literals bodies rest free.literal).2 depth
  | block free _ _ _ _ inner outer =>
    intro depth rest
    rw [parts, List.append_assoc, (fill_literals bodies _ free.literal).2]
    simp only [List.cons_append, List.append_assoc, fill, inner, outer]

/-- With the bodies of a child, what is written of an outline is the outline filled in. -/
theorem fill_append (formed : outline.WellFormed) {bodies : Fields (List Char)}
    (same : ∀ name, Fields.find? name bodies = (child.body? name).map source) :
    ∀ rest : List Mark, fill bodies none (outline.parts ++ rest) =
      (outline.filledFrom child).source ++ fill bodies none rest := by
  induction formed with
  | plain free =>
    intro rest
    rw [parts, (fill_literals bodies rest free.literal).1, sourceOf_marks, Outline.filledFrom,
      source]
  | @block before openingTag name body closingTag after free _ here _ _ inner outer =>
    intro rest
    rw [parts, List.append_assoc, (fill_literals bodies _ free.literal).1, sourceOf_marks,
      Outline.filledFrom, source]
    simp only [List.cons_append, List.append_assoc, fill, same name]
    cases child.body? name with
    | none =>
      simp only [Option.map_none, Option.getD_none, inner, fill, Mark.source, outer]
    | some new =>
      simp only [Option.map_some, Option.getD_some, here.fill_leaving, fill, outer]

end Outline.WellFormed

/-- Among collected definitions, the first of a name is found. -/
theorem find?_firstDefinitions (name : String) (given : List (String × List Char)) :
    Fields.find? name (firstDefinitions given) = (given.find? (·.1 = name)).map Prod.snd := by
  induction given with
  | nil => rfl
  | cons entry given ih =>
    obtain ⟨key, body⟩ := entry
    rw [firstDefinitions, Fields.find?_insert, List.find?_cons, ih]
    by_cases here : key = name
    · simp [here]
    · simp [here, Ne.symm here]

/-- The bodies of the blocks of a text with an outline are those of the outline. -/
theorem blockBodies?_of_scan? {text : List Char} {outline : Outline}
    (scanned : scan? text = some outline) :
    ∃ bodies, blockBodies? text = some bodies ∧
      ∀ name, Fields.find? name bodies = (outline.body? name).map Outline.source := by
  obtain ⟨formed, rfl, _⟩ := scan?_eq_some_iff.1 scanned
  have balanced := isBalanced_marks outline.source
  rw [scanned, Option.isSome_some] at balanced
  refine ⟨_, by rw [blockBodies?, balanced, if_pos rfl], fun name => ?_⟩
  have listed := formed.definitions_append []
  rw [List.append_nil] at listed
  rw [find?_firstDefinitions, formed.marks_source, listed, definitions, List.append_nil,
    List.find?_map, Option.map_map, Outline.body?, Option.map_map]
  rfl

/-- Filling a parent in with the bodies of a child writes the parent's outline out, filled in
from the child's. -/
theorem merge_of_scan? {text : List Char} {parent child : Outline}
    (scanned : scan? text = some parent) {bodies : Fields (List Char)}
    (same : ∀ name, Fields.find? name bodies = (child.body? name).map Outline.source) :
    merge text bodies = (parent.filledFrom child).source := by
  obtain ⟨formed, rfl, _⟩ := scan?_eq_some_iff.1 scanned
  have balanced := isBalanced_marks parent.source
  rw [scanned, Option.isSome_some] at balanced
  have filled := formed.fill_append same []
  rw [List.append_nil, ← formed.marks_source] at filled
  rw [merge, balanced, if_pos rfl, filled, fill, List.append_nil]

end NoteTemplate.Template
