import NoteTemplate.Engine
import NoteTemplate.Proofs.Answer
import NoteTemplate.Proofs.RelatedRendering

/-!
# Watching the chain of includes

A watched rendering also records the chain of the templates that are being included, whenever an
include is met and whenever an included template joins the chain. It counts nothing: what bounds
its recursion is the check of the depth itself. `Tracks` relates a watched computation to the
original one: they run alike, and what is recorded is sound. It is kept by sequencing
(`composes_tracks`), so it holds of a rendering when it holds of the includes.
-/

namespace NoteTemplate

namespace Template

/-- A state with the chains of includes that were active, the latest one first. -/
structure Watched (σ : Type) where
  /-- The state. -/
  state : σ
  /-- The chains. -/
  chains : List (List String) := []

namespace Watched

variable {σ : Type}

/-- The state behind one more chain. -/
def record (watched : Watched σ) (chain : List String) : Watched σ :=
  { watched with chains := chain :: watched.chains }

/-- An invariant holds of the state, and all chains are sound. -/
structure Holds (invariant : σ → Prop) (sound : List String → Prop) (watched : Watched σ) :
    Prop where
  /-- The invariant holds. -/
  state : invariant watched.state
  /-- All chains are sound. -/
  chains : ∀ chain ∈ watched.chains, sound chain

/-- One more sound chain changes nothing. -/
theorem Holds.record {invariant : σ → Prop} {sound : List String → Prop} {watched : Watched σ}
    (holds : watched.Holds invariant sound) {chain : List String} (next : sound chain) :
    (watched.record chain).Holds invariant sound :=
  ⟨holds.state, List.forall_mem_cons.2 ⟨next, holds.chains⟩⟩

end Watched

namespace Attempt

variable {σ α β : Type}

/-- Runs a computation in which no chain is recorded. -/
def unwatched (attempt : Attempt σ α) : Attempt (Watched σ) α := fun watched =>
  ((attempt.run watched.state).1, { watched with state := (attempt.run watched.state).2 })

/-- Records the chain that is active now. -/
def watch (chain : List String) : Attempt (Watched σ) Unit :=
  modify fun watched => watched.record chain

/-- A watched computation runs like the original one. Where an invariant holds and all chains are
sound, they stay sound, a result keeps the invariant, and of a failure something is told with the
chains. -/
def Tracks (invariant : σ → Prop) (sound : List String → Prop)
    (told : List (List String) → Failure → Prop) (attempt : Attempt (Watched σ) α)
    (original : Attempt σ α) : Prop :=
  ∀ watched : Watched σ, watched.Holds invariant sound →
    ∃ answer after, attempt.run watched = (answer, after) ∧
      original.run watched.state = (answer, after.state) ∧
      (∀ chain ∈ after.chains, sound chain) ∧
      (∀ value, answer = .ok value → invariant after.state) ∧
      ∀ failure, answer = .error failure → told after.chains failure

section Tracks

variable {invariant : σ → Prop} {sound : List String → Prop}
  {told : List (List String) → Failure → Prop}

/-- Computations that are tracked can be put in sequence. A known failure is tracked when it is told
of with any chains. -/
theorem composes_tracks :
    Composes (fun failure => ∀ chains, told chains failure)
      fun attempt original => Tracks invariant sound told attempt original := by
  refine ⟨fun value watched holds => ?_, fun failure tells watched holds => ?_,
    fun first later watched holds => ?_⟩
  · exact ⟨.ok value, watched, rfl, rfl, holds.chains, fun _ _ => holds.state, nofun⟩
  · exact ⟨.error failure, watched, rfl, rfl, holds.chains, nofun, fun cause same => by
      cases same
      exact tells watched.chains⟩
  · obtain ⟨answer, after, ran, original, chains, kept, tells⟩ := first watched holds
    rw [run_bind, run_bind, ran, original]
    cases answer with
    | ok value => exact later value after ⟨kept value rfl, chains⟩
    | error failure =>
      exact ⟨.error failure, after, rfl, rfl, chains, nofun, fun cause same => by
        cases same
        exact tells failure rfl⟩

/-- A sound chain may be recorded before a computation. -/
theorem Tracks.watch {attempt : Attempt (Watched σ) α} {original : Attempt σ α}
    (tracks : Tracks invariant sound told attempt original) {chain : List String}
    (next : sound chain) :
    Tracks invariant sound told (do Attempt.watch chain; attempt) original :=
  fun watched holds => tracks (watched.record chain) (holds.record next)

/-- A failure behind a chain is tracked when it is told of with the chain as the latest. -/
theorem tracks_throw {chain : List String} {failure : Failure} (next : sound chain)
    (tells : ∀ before, told (chain :: before) failure) :
    Tracks invariant sound told (do Attempt.watch chain; throw failure)
      (throw failure : Attempt σ α) := by
  intro watched holds
  refine ⟨.error failure, watched.record chain, rfl, rfl, (holds.record next).chains, nofun,
    fun cause same => ?_⟩
  cases same
  exact tells watched.chains

/-- Behind a computation with a known answer, only what follows its result is to be tracked. -/
theorem tracks_unwatched_bind {attempt : Attempt σ α} {answer : Except Failure α}
    (answers : Answers invariant attempt answer)
    (tells : ∀ failure, answer = .error failure → ∀ chains, told chains failure)
    {next : α → Attempt (Watched σ) β} {original : α → Attempt σ β}
    (later : ∀ value, answer = .ok value →
      Tracks invariant sound told (next value) (original value)) :
    Tracks invariant sound told (unwatched attempt >>= next) (attempt >>= original) := by
  intro watched holds
  obtain ⟨given, kept⟩ := answers watched.state holds.state
  have ran : (unwatched attempt).run watched =
      (answer, { watched with state := (attempt.run watched.state).2 }) := Prod.ext given rfl
  have originally : attempt.run watched.state = (answer, (attempt.run watched.state).2) :=
    Prod.ext given rfl
  rw [run_bind, run_bind, ran, originally]
  cases answer with
  | ok value => exact later value rfl _ ⟨kept, holds.chains⟩
  | error failure =>
    refine ⟨.error failure, _, rfl, rfl, holds.chains, nofun, fun cause same => ?_⟩
    cases same
    exact tells failure rfl watched.chains

end Tracks

end Attempt

open Attempt

section Watching

variable {σ : Type}

/-- Inserts a template into the last one of a chain and watches the chain. -/
def insertWatched (fetch : Fetch σ) (limit : Nat) (chain : List String) (scope : Scope)
    (name : String) : Attempt (Watched σ) Fragment := do
  watch chain
  if name ∈ chain then throw (.circular (chain ++ [name]))
  else if limit < chain.length then throw (.tooDeep name limit)
  else
    let fetched ← unwatched (fetch name)
    -- A template that is missing or malformed is not rendered and does not join the chain.
    let insert := insertFetched (insertWatched fetch limit (chain ++ [name])) scope name fetched
    if (fetched.bind (·.parsed.toOption)).isSome then do
      watch (chain ++ [name])
      insert
    else insert
termination_by limit + 1 - chain.length
decreasing_by
  simp only [List.length_append, List.length_singleton]
  omega

/-- Renders a template and watches the chain of its includes. -/
def renderCompiledWatched (fetch : Fetch σ) (limit : Nat) (template : Compiled)
    (context : Context) : Attempt (Watched σ) Document :=
  match template.parsed with
  | .ok nodes => do
    let chain := startChain template.name
    watch chain
    let fragment ← renderBody (insertWatched fetch limit chain) ⟨context, []⟩ nodes
    return .ofText template.name (tidy fragment.text) (template.warnings ++ fragment.warnings) false
  | .error error =>
    return .ofText template.name template.text
      (template.warnings ++ [.malformed error.message error.line]) true

end Watching

end Template

open Template.Attempt in
/-- Renders a stored template and watches the chain of its includes. -/
def Shelf.renderWatched (shelf : Shelf) (limit : Nat) (name : String) (context : Context) :
    Template.Attempt (Template.Watched Cache) (Option Document) := do
  match ← unwatched (shelf.load name) with
  | none => return none
  | some template =>
    return some (← Template.renderCompiledWatched shelf.fetch limit template context)

end NoteTemplate
