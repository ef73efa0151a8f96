import NoteTemplate.Proofs.AssembledRendering

/-!
# What two renderings have in common

A rendering puts known results and insertions of templates one behind another, unless a node aborts
it. So whatever known results and permitted failures have in common, and what sequencing keeps, two
renderings of a tree have in common as soon as their insertions do (`renderBody_related`). The two
may run over different states and in scopes that differ in names which the tree does not look up.
-/

namespace NoteTemplate.Template

/-- A relation between computations over two states, of results of one type. -/
abbrev AttemptRelation (σ τ : Type) := ∀ {α : Type}, Attempt σ α → Attempt τ α → Prop

/-- A relation that holds between known results and between permitted failures, and is kept by
sequencing. -/
structure Composes {σ τ : Type} (permitted : Failure → Prop) (related : AttemptRelation σ τ) :
    Prop where
  /-- Equal results that are known are related. -/
  result : ∀ {α : Type} (value : α), related (pure value) (pure value)
  /-- Equal failures that are permitted are related. -/
  failure : ∀ {α : Type} (failure : Failure), permitted failure →
    related (throw failure : Attempt σ α) (throw failure : Attempt τ α)
  /-- Sequences are related when their parts are. -/
  sequence : ∀ {α β : Type} {first : Attempt σ α} {twin : Attempt τ α}
    {next : α → Attempt σ β} {twinNext : α → Attempt τ β}, related first twin →
    (∀ value, related (next value) (twinNext value)) → related (first >>= next) (twin >>= twinNext)

section Relations

variable {σ τ : Type} {permitted : Failure → Prop} {related : AttemptRelation σ τ}
  {changed : List String} {insert : Scope → String → Attempt σ Fragment}
  {twin : Scope → String → Attempt τ Fragment}

/-- Iterations over the same items are related when every single one is. -/
theorem renderItems_related (composes : Composes permitted related)
    {render : Value → Nat → Attempt σ Fragment} {twinRender : Value → Nat → Attempt τ Fragment}
    (each : ∀ item index, related (render item index) (twinRender item index))
    (items : List Value) :
    ∀ index, related (renderItems render index items) (renderItems twinRender index items) := by
  induction items with
  | nil => exact fun _ => composes.result _
  | cons item rest ih =>
    intro index
    exact composes.sequence (each item index) fun _ =>
      composes.sequence (ih (index + 1)) fun _ => composes.result _

/-- A relation that is kept by sequencing is kept by the ways in which fragments are put
together. -/
theorem Composes.assembles (composes : Composes permitted related) :
    Assembles (fun _ => True) permitted
      fun (attempt : Attempt σ Fragment) twin => related attempt twin where
  empty := trivial
  fragment fragment _ := composes.result fragment
  failure := composes.failure
  append first later :=
    composes.sequence first fun _ => composes.sequence later fun _ => composes.result _
  condition _ _ first := composes.sequence first fun _ => composes.result _
  iterations each items :=
    composes.sequence (renderItems_related composes each items 0) fun _ => composes.result _

/-- Two renderings of a node are related when its insertions are. -/
theorem renderNode_related (composes : Composes permitted related) (node : Node)
    (untouched : Untouched changed node.flatten) (aborts : AbortsPermitted permitted node.flatten)
    (insertions : InsertionsRelated related changed insert twin node.flatten)
    (scope other : Scope) (agree : scope.AgreeOff changed other) :
    related (renderNode insert scope node) (renderNode twin other node) :=
  renderNode_assembled composes.assembles node untouched
    ⟨fun _ _ _ _ _ => trivial, aborts⟩ insertions scope other agree

/-- Two renderings of a body are related when its insertions are. -/
theorem renderBody_related (composes : Composes permitted related) (nodes : List Node)
    (untouched : Untouched changed (Node.flattenAll nodes))
    (aborts : AbortsPermitted permitted (Node.flattenAll nodes))
    (insertions : InsertionsRelated related changed insert twin (Node.flattenAll nodes))
    (scope other : Scope) (agree : scope.AgreeOff changed other) :
    related (renderBody insert scope nodes) (renderBody twin other nodes) :=
  renderBody_assembled composes.assembles nodes untouched
    ⟨fun _ _ _ _ _ => trivial, aborts⟩ insertions scope other agree

/-- Insertions of one fetched template are related when those below it are. -/
theorem insertFetched_related (composes : Composes permitted related) {name : String}
    {fetched : Option Compiled}
    (below : ∀ template nodes, fetched = some template → template.parsed = .ok nodes →
      Untouched changed (Node.flattenAll nodes) ∧
      AbortsPermitted permitted (Node.flattenAll nodes) ∧
      InsertionsRelated related changed insert twin (Node.flattenAll nodes))
    {scope other : Scope} (agree : scope.AgreeOff changed other) :
    related (insertFetched insert scope name fetched) (insertFetched twin other name fetched) := by
  cases fetched with
  | none => exact composes.result _
  | some template =>
    simp only [insertFetched]
    split
    · rename_i nodes parsed
      obtain ⟨untouched, aborts, insertions⟩ := below template nodes rfl parsed
      have body := renderBody_related composes nodes untouched aborts insertions scope other agree
      exact composes.sequence body fun _ => composes.result _
    · exact composes.result _

end Relations

section KnownAlike

variable {σ α : Type} {permitted : Failure → Prop}

/-- Two computations have the same known result, or the same permitted failure. -/
def KnownAlike (permitted : Failure → Prop) (attempt twin : Attempt σ α) : Prop :=
  ∃ answer : Except Failure α, (∀ failure, answer = .error failure → permitted failure) ∧
    attempt = .ofExcept answer ∧ twin = .ofExcept answer

/-- Known answers are kept by sequencing. -/
theorem composes_knownAlike :
    @Composes σ σ permitted fun attempt twin => KnownAlike permitted attempt twin where
  result value := ⟨.ok value, nofun, rfl, rfl⟩
  failure failure fits := ⟨.error failure, fun _ same => Except.error.inj same ▸ fits, rfl, rfl⟩
  sequence := by
    rintro α β first twin next twinNext ⟨answer, fits, rfl, rfl⟩ later
    cases answer with
    | ok value =>
      obtain ⟨last, lastFits, known, same⟩ := later value
      exact ⟨last, lastFits, by rw [Attempt.ofExcept, pure_bind, known],
        by rw [Attempt.ofExcept, pure_bind, same]⟩
    | error failure =>
      exact ⟨.error failure, fun _ same => Except.error.inj same ▸ fits failure rfl, rfl, rfl⟩

end KnownAlike

end NoteTemplate.Template
