import NoteTemplate.Template.Node

/-!
# Equality of nodes

Whether two nodes are equal is decided part by part.
-/

namespace NoteTemplate.Template.Node

mutual

/-- Whether two nodes are equal in all parts. -/
def same : Node → Node → Bool
  | .text left, .text right => decide (left = right)
  | .variable left, .variable right => decide (left = right)
  | .call left leftSource leftLine, .call right rightSource rightLine =>
    decide (left = right) && decide (leftSource = rightSource) && decide (leftLine = rightLine)
  | .choice left none, .choice right none => sameBranches left right
  | .choice left (some leftBody), .choice right (some rightBody) =>
    sameBranches left right && sameAll leftBody rightBody
  | .each left leftBody, .each right rightBody =>
    decide (left = right) && sameAll leftBody rightBody
  | .block left leftBody, .block right rightBody =>
    decide (left = right) && sameAll leftBody rightBody
  | .inclusion left leftLine, .inclusion right rightLine =>
    decide (left = right) && decide (leftLine = rightLine)
  | .parent left, .parent right => decide (left = right)
  | .unknown left leftLine, .unknown right rightLine =>
    decide (left = right) && decide (leftLine = rightLine)
  | _, _ => false

/-- Whether two bodies are equal. -/
def sameAll : List Node → List Node → Bool
  | [], [] => true
  | left :: lefts, right :: rights => same left right && sameAll lefts rights
  | _, _ => false

/-- Whether two lists of branches are equal. -/
def sameBranches : List (String × List Node) → List (String × List Node) → Bool
  | [], [] => true
  | (left, leftBody) :: lefts, (right, rightBody) :: rights =>
    decide (left = right) && sameAll leftBody rightBody && sameBranches lefts rights
  | _, _ => false

end

mutual

/-- Nodes that are the same in all parts are equal. -/
theorem eq_of_same : ∀ left right : Node, same left right = true → left = right
  | .text _, right, checked => by cases right <;> simp_all [same]
  | .variable _, right, checked => by cases right <;> simp_all [same]
  | .call .., right, checked => by cases right <;> simp_all [same]
  | .inclusion .., right, checked => by cases right <;> simp_all [same]
  | .parent _, right, checked => by cases right <;> simp_all [same]
  | .unknown .., right, checked => by cases right <;> simp_all [same]
  | .choice branches none, right, checked => by
    cases right with
    | choice others last =>
      cases last with
      | none =>
        simp only [same] at checked
        rw [branches_eq_of_same branches others checked]
      | some _ => simp [same] at checked
    | _ => simp [same] at checked
  | .choice branches (some body), right, checked => by
    cases right with
    | choice others last =>
      cases last with
      | none => simp [same] at checked
      | some other =>
        simp only [same, Bool.and_eq_true] at checked
        rw [branches_eq_of_same branches others checked.1, all_eq_of_same body other checked.2]
    | _ => simp [same] at checked
  | .each _ body, right, checked => by
    cases right with
    | each _ other =>
      simp only [same, Bool.and_eq_true, decide_eq_true_eq] at checked
      rw [checked.1, all_eq_of_same body other checked.2]
    | _ => simp [same] at checked
  | .block _ body, right, checked => by
    cases right with
    | block _ other =>
      simp only [same, Bool.and_eq_true, decide_eq_true_eq] at checked
      rw [checked.1, all_eq_of_same body other checked.2]
    | _ => simp [same] at checked

/-- Bodies that are the same are equal. -/
theorem all_eq_of_same : ∀ left right : List Node, sameAll left right = true → left = right
  | [], right, checked => by cases right <;> simp_all [sameAll]
  | node :: rest, right, checked => by
    cases right with
    | nil => simp [sameAll] at checked
    | cons other others =>
      simp only [sameAll, Bool.and_eq_true] at checked
      rw [eq_of_same node other checked.1, all_eq_of_same rest others checked.2]

/-- Lists of branches that are the same are equal. -/
theorem branches_eq_of_same :
    ∀ left right : List (String × List Node), sameBranches left right = true → left = right
  | [], right, checked => by cases right <;> simp_all [sameBranches]
  | (_, body) :: rest, right, checked => by
    cases right with
    | nil => simp [sameBranches] at checked
    | cons other others =>
      obtain ⟨condition, otherBody⟩ := other
      simp only [sameBranches, Bool.and_eq_true, decide_eq_true_eq] at checked
      rw [checked.1.1, all_eq_of_same body otherBody checked.1.2,
        branches_eq_of_same rest others checked.2]

end

mutual

/-- A node is the same as itself. -/
theorem same_refl : ∀ node : Node, same node node = true
  | .text _ | .variable _ | .call .. | .inclusion .. | .parent _ | .unknown .. => by simp [same]
  | .choice branches none => by simp only [same, sameBranches_refl branches]
  | .choice branches (some body) => by
    simp only [same, sameBranches_refl branches, sameAll_refl body, Bool.and_self]
  | .each _ body | .block _ body => by
    simp only [same, sameAll_refl body, decide_true, Bool.and_self]

/-- A body is the same as itself. -/
theorem sameAll_refl : ∀ body : List Node, sameAll body body = true
  | [] => by simp only [sameAll]
  | node :: rest => by simp only [sameAll, same_refl node, sameAll_refl rest, Bool.and_self]

/-- A list of branches is the same as itself. -/
theorem sameBranches_refl :
    ∀ branches : List (String × List Node), sameBranches branches branches = true
  | [] => by simp only [sameBranches]
  | (_, body) :: rest => by
    simp only [sameBranches, sameAll_refl body, sameBranches_refl rest, decide_true, Bool.and_self]

end

/-- Equality of nodes is decidable. -/
instance : DecidableEq Node := fun left right =>
  decidable_of_iff (same left right = true)
    ⟨eq_of_same left right, fun equal => equal ▸ same_refl left⟩

end NoteTemplate.Template.Node
