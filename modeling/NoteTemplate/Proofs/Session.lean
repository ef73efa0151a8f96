import NoteTemplate.Proofs.AbortedRendering
import NoteTemplate.Proofs.ValidationAnswer

/-!
# Sessions

A session is a run of operations, in any order, of a store in memory and of an engine over
it. What a store holds does not depend on the cache of the engine; what the engine answers
could. Every operation of the engine gives one answer from all caches that are coherent
with a history of the store, and keeps them coherent (`EngineStep.run_coherent`).
-/

namespace NoteTemplate

open Template (Compiled)
open Template.Attempt

/-- An operation of a store in memory. -/
inductive StoreStep where
  /-- Stores a text. -/
  | write (name text : String)
  /-- Stores a text with a given stamp. -/
  | insertAt (name text : String) (modified : Stamp)
  /-- Removes a template. -/
  | remove (name : String)

/-- An operation of an engine. -/
inductive EngineStep where
  /-- Loads a template. -/
  | load (name : String)
  /-- Loads the text of a template. -/
  | loadText (name : String)
  /-- Renders a template. -/
  | render (name : String) (context : Context)
  /-- Validates a template. -/
  | validate (name : String)
  /-- Makes the cache forget a name. -/
  | invalidate (name : String)
  /-- Makes the cache forget everything. -/
  | clear

/-- What an operation answers. -/
inductive Reply where
  /-- Whether a text was stored. -/
  | stored (answer : Except Failure Unit)
  /-- Whether there was a template to remove. -/
  | removed (existed : Bool)
  /-- A template that is ready to be rendered. -/
  | template (answer : Except Failure (Option Compiled))
  /-- A text with its parents filled in. -/
  | text (answer : Except Failure (Option String))
  /-- A rendered document. -/
  | document (answer : Except Failure (Option Document))
  /-- The report of a validation. -/
  | report (answer : Except Failure (Option Report))
  /-- Nothing. -/
  | done

/-- Runs an operation of a store. -/
def StoreStep.run (store : MemoryStore) : StoreStep → Reply × MemoryStore
  | .write name text => ((store.write name text).1 |> .stored, (store.write name text).2)
  | .insertAt name text modified =>
    ((store.insertAt name text modified).1 |> .stored, (store.insertAt name text modified).2)
  | .remove name => ((store.remove name).1 |> .removed, (store.remove name).2)

/-- Runs a computation over a cache and hands its answer out. -/
def Template.Attempt.reply {α : Type} (reply : Except Failure α → Reply) (attempt : Loading α)
    (cache : Cache) : Reply × Cache :=
  (reply (attempt.run cache).1, (attempt.run cache).2)

/-- Runs an operation of an engine. -/
def EngineStep.run (limit : Nat) (store : MemoryStore) (cache : Cache) :
    EngineStep → Reply × Cache
  | .load name => (store.shelf.load name).reply .template cache
  | .loadText name => (store.shelf.loadText name).reply .text cache
  | .render name context => (store.shelf.render limit name context).reply .document cache
  | .validate name => (store.shelf.validate limit name).reply .report cache
  | .invalidate name => (.done, cache.invalidate name)
  | .clear => (.done, cache.clear)

/-- The cache behind operations of an engine on one store. -/
def EngineStep.cacheAfter (limit : Nat) (store : MemoryStore) (cache : Cache)
    (steps : List EngineStep) : Cache :=
  steps.foldl (fun cache step => (step.run limit store cache).2) cache

section Answers

variable {store : MemoryStore} {history : History}

/-- Loading settles, whatever the name. -/
theorem load_settles (within : store.Within history) (name : String) :
    Settles (Cache.Coherent history) (fun _ => True) (store.shelf.load name) := by
  cases allowed : isTemplateName name with
  | true =>
    obtain ⟨answer, _, answers⟩ := load_answers within allowed
    exact ⟨answer, fun _ _ => trivial, answers⟩
  | false =>
    obtain ⟨rejection, answers⟩ := load_refused store allowed
    exact (answers _).settles_error trivial

/-- Validating settles, whatever the name. -/
theorem validate_settles (within : store.Within history) (limit : Nat) (name : String) :
    Settles (Cache.Coherent history) (fun _ => True) (store.shelf.validate limit name) := by
  cases allowed : isTemplateName name with
  | true =>
    cases found : store.stored? name with
    | some source =>
      obtain ⟨_, answers, _⟩ := validate_answers within limit allowed found
      exact answers.settles
    | none =>
      unfold Shelf.validate
      rw [MemoryStore.read_of_isTemplateName allowed, found]
      exact (answers_ofExcept (.ok none)).bind_settles (settles_pure _)
  | false =>
    obtain ⟨rejection, refused⟩ := checkName_of_refused allowed
    unfold Shelf.validate
    rw [refused]
    exact (answers_ofExcept (.error _)).bind_error.settles_error trivial

/-- A computation that settles replies the same from all coherent caches. -/
theorem reply_coherent {α : Type} {attempt : Loading α}
    (settles : Settles (Cache.Coherent history) (fun _ => True) attempt)
    (reply : Except Failure α → Reply) :
    ∃ given, ∀ cache : Cache, cache.Coherent history →
      (attempt.reply reply cache).1 = given ∧ (attempt.reply reply cache).2.Coherent history := by
  obtain ⟨answer, _, answers⟩ := settles
  exact ⟨reply answer, fun cache coherent =>
    ⟨congrArg reply (answers cache coherent).1, (answers cache coherent).2⟩⟩

/-- An operation of an engine gives one reply from all coherent caches and keeps them
coherent. -/
theorem EngineStep.run_coherent (within : store.Within history) (limit : Nat)
    (step : EngineStep) : ∃ given, ∀ cache : Cache, cache.Coherent history →
      (step.run limit store cache).1 = given ∧
        (step.run limit store cache).2.Coherent history := by
  cases step with
  | load name => exact reply_coherent (load_settles within name) _
  | loadText name =>
    exact reply_coherent ((load_settles within name).bind fun _ => settles_pure _) _
  | render name context =>
    exact reply_coherent ((render_aborts within limit name context).mono fun _ _ => trivial) _
  | validate name => exact reply_coherent (validate_settles within limit name) _
  | invalidate name => exact ⟨.done, fun _ coherent => ⟨rfl, coherent.invalidate name⟩⟩
  | clear => exact ⟨.done, fun cache _ => ⟨rfl, Cache.Coherent.clear cache⟩⟩

/-- Operations of an engine leave a coherent cache. -/
theorem EngineStep.cacheAfter_coherent (within : store.Within history) (limit : Nat)
    (steps : List EngineStep) :
    ∀ cache : Cache, cache.Coherent history →
      (cacheAfter limit store cache steps).Coherent history := by
  induction steps with
  | nil => exact fun _ coherent => coherent
  | cons step rest ih =>
    intro cache coherent
    obtain ⟨_, kept⟩ := step.run_coherent within limit
    exact ih _ (kept cache coherent).2

end Answers

end NoteTemplate
