import NoteTemplate.Proofs.Answer
import NoteTemplate.Proofs.RelatedRendering

/-!
# Rendering answers as its includes do

The only steps of a rendering that look at the state are the insertions of included
templates, and apart from these only a node that aborts the rendering fails. So a rendering
settles as soon as the insertions of all templates named below its nodes do and an abort by
one of the nodes is allowed, whichever branches and iterations the context selects.
-/

namespace NoteTemplate.Template

open Attempt

variable {σ : Type} {invariant : σ → Prop} {allowed : Failure → Prop}

/-- The insertion of every template that some nodes name settles, in every scope. -/
def InsertionsSettle (invariant : σ → Prop) (allowed : Failure → Prop)
    (insert : Scope → String → Attempt σ Fragment) (nodes : List Node) : Prop :=
  ∀ name line, Node.inclusion name line ∈ nodes →
    ∀ scope, Settles invariant allowed (insert scope name)

/-- That the first of two computations settles holds of known results and of allowed failures, and
is kept by sequencing. -/
theorem composes_settles :
    @Composes σ σ allowed fun attempt _ => Settles invariant allowed attempt where
  result := settles_pure
  failure failure fits := (answers_throw failure).settles_error fits
  sequence first later := first.bind later

/-- A body settles when the insertions below it do. -/
theorem renderBody_settles (insert : Scope → String → Attempt σ Fragment) (nodes : List Node)
    (aborts : AbortsPermitted allowed (Node.flattenAll nodes))
    (below : InsertionsSettle invariant allowed insert (Node.flattenAll nodes)) (scope : Scope) :
    Settles invariant allowed (renderBody insert scope nodes) := by
  have insertions : InsertionsRelated (fun attempt _ => Settles invariant allowed attempt) []
      insert insert (Node.flattenAll nodes) := fun name line member scope _ _ =>
    below name line member scope
  exact renderBody_related composes_settles nodes (untouched_nil _) aborts insertions scope scope
    (.refl scope)

/-- A fetched template that is no template, or none at all, is inserted without a failure;
any other is inserted as its nodes are. -/
theorem insertFetched_settles {insert : Scope → String → Attempt σ Fragment} {name : String}
    {fetched : Option Compiled}
    (below : ∀ template nodes, fetched = some template → template.parsed = .ok nodes →
      AbortsPermitted allowed (Node.flattenAll nodes) ∧
      InsertionsSettle invariant allowed insert (Node.flattenAll nodes)) (scope : Scope) :
    Settles invariant allowed (insertFetched insert scope name fetched) := by
  cases fetched with
  | none => exact settles_pure _
  | some template =>
    simp only [insertFetched]
    split
    · rename_i nodes parsed
      obtain ⟨aborts, insertions⟩ := below template nodes rfl parsed
      have body := renderBody_settles insert nodes aborts insertions scope
      exact body.bind fun _ => settles_pure _
    · exact settles_pure _

/-- A template of the chain is not inserted again. -/
theorem insertInto_met {fetch : Fetch σ} {limit remaining : Nat} {chain : List String}
    {scope : Scope} {name : String} (met : name ∈ chain) :
    Answers invariant (insertInto fetch limit remaining chain scope name)
      (.error (.circular (chain ++ [name]))) := by
  cases remaining with
  | zero =>
    rw [insertInto, if_pos met]
    exact answers_throw _
  | succ remaining =>
    rw [insertInto, if_pos met]
    exact answers_throw _

/-- A new template is not inserted below a chain without room. -/
theorem insertInto_full {fetch : Fetch σ} {limit : Nat} {chain : List String} {scope : Scope}
    {name : String} (new : name ∉ chain) :
    Answers invariant (insertInto fetch limit 0 chain scope name)
      (.error (.tooDeep name limit)) := by
  rw [insertInto, if_neg new]
  exact answers_throw _

end NoteTemplate.Template
