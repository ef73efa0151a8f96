import NoteTemplate.Template.Rendering

/-!
# Answers that do not depend on the state

A computation that may fail runs over a state that outlives the failure. `Answers` says
that from every state with an invariant the computation gives one and the same answer and
leaves a state with the invariant; `Settles` says that there is such an answer and bounds
the failures it can be. Both are kept by sequencing and by recovery, so a computation is
judged by its parts, whatever the state remembers. `Yields` is for computations that do not
fail but may be aborted: it says what their results are like.
-/

namespace NoteTemplate.Template.Attempt

variable {σ α β : Type} {invariant : σ → Prop} {allowed : Failure → Prop}

/-- From every state with the invariant, the answer is the given one and the invariant is
kept. -/
def Answers (invariant : σ → Prop) (attempt : Attempt σ α) (answer : Except Failure α) : Prop :=
  ∀ state, invariant state →
    (attempt.run state).1 = answer ∧ invariant (attempt.run state).2

/-- Some answer is given from every state with the invariant, and it is no failure but an
allowed one. -/
def Settles (invariant : σ → Prop) (allowed : Failure → Prop) (attempt : Attempt σ α) : Prop :=
  ∃ answer, (∀ failure, answer = .error failure → allowed failure) ∧
    Answers invariant attempt answer

/-- A sequence runs the second computation only behind a result of the first. -/
theorem run_bind (attempt : Attempt σ α) (next : α → Attempt σ β) (state : σ) :
    (attempt >>= next).run state =
      match attempt.run state with
      | (.ok value, after) => (next value).run after
      | (.error failure, after) => (.error failure, after) := by
  change (ExceptT.bind attempt next) state = _
  simp only [ExceptT.bind, ExceptT.mk, ExceptT.run, bind, StateT.bind, ExceptT.bindCont]
  rcases attempt state with ⟨answer, after⟩
  cases answer with
  | ok value => rfl
  | error failure => rfl

/-- A recovery runs only behind a failure. -/
theorem run_tryCatch (attempt : Attempt σ α) (recover : Failure → Attempt σ α) (state : σ) :
    (tryCatch attempt recover : Attempt σ α).run state =
      match attempt.run state with
      | (.ok value, after) => (.ok value, after)
      | (.error failure, after) => (recover failure).run after := by
  change (ExceptT.tryCatch attempt recover) state = _
  simp only [ExceptT.tryCatch, ExceptT.mk, ExceptT.run, bind, StateT.bind]
  rcases attempt state with ⟨answer, after⟩
  cases answer with
  | ok value => rfl
  | error failure => rfl

/-- A known result is the answer. -/
theorem answers_pure (value : α) : Answers invariant (pure value) (.ok value) :=
  fun _ holds => ⟨rfl, holds⟩

/-- A known failure is the answer. -/
theorem answers_throw (failure : Failure) :
    Answers invariant (throw failure : Attempt σ α) (.error failure) :=
  fun _ holds => ⟨rfl, holds⟩

/-- An answer that is known in advance is given. -/
theorem answers_ofExcept (answer : Except Failure α) :
    Answers invariant (ofExcept answer) answer := by
  cases answer with
  | ok value => exact answers_pure value
  | error failure => exact answers_throw failure

/-- A change of the state that keeps the invariant is no part of the answer. -/
theorem answers_modify {change : σ → σ}
    (kept : ∀ state, invariant state → invariant (change state)) :
    Answers invariant (modify change : Attempt σ Unit) (.ok ()) :=
  fun state holds => ⟨rfl, kept state holds⟩

/-- What is read off the state does not matter when everything behind it gives one answer. -/
theorem answers_modifyGet_bind {read : σ → α × σ} {next : α → Attempt σ β}
    {answer : Except Failure β} (kept : ∀ state, invariant state → invariant (read state).2)
    (later : ∀ state, invariant state → Answers invariant (next (read state).1) answer) :
    Answers invariant ((modifyGet read : Attempt σ α) >>= next) answer :=
  fun state holds => later state holds (read state).2 (kept state holds)

/-- The same for the state itself. -/
theorem answers_get_bind {next : σ → Attempt σ β} {answer : Except Failure β}
    (later : ∀ state, invariant state → Answers invariant (next state) answer) :
    Answers invariant ((get : Attempt σ σ) >>= next) answer :=
  fun state holds => later state holds state holds

/-- What follows a result decides the answer of a sequence. -/
theorem Answers.bind {attempt : Attempt σ α} {next : α → Attempt σ β} {value : α}
    {answer : Except Failure β} (first : Answers invariant attempt (.ok value))
    (later : Answers invariant (next value) answer) :
    Answers invariant (attempt >>= next) answer := by
  intro state holds
  obtain ⟨found, kept⟩ := first state holds
  rw [run_bind]
  cases ran : attempt.run state with
  | mk result after =>
    rw [ran] at found kept
    cases found
    exact later after kept

/-- A failure ends a sequence. -/
theorem Answers.bind_error {attempt : Attempt σ α} {next : α → Attempt σ β} {failure : Failure}
    (first : Answers invariant attempt (.error failure)) :
    Answers invariant (attempt >>= next) (.error failure) := by
  intro state holds
  obtain ⟨found, kept⟩ := first state holds
  rw [run_bind]
  cases ran : attempt.run state with
  | mk result after =>
    rw [ran] at found kept
    cases found
    exact ⟨rfl, kept⟩

/-- Applying a function to the result of a computation applies it to the answer. -/
theorem Answers.map {attempt : Attempt σ α} {answer : Except Failure α} (change : α → β)
    (first : Answers invariant attempt answer) :
    Answers invariant (do return change (← attempt)) (answer.map change) := by
  cases answer with
  | ok value => exact first.bind (answers_pure _)
  | error failure => exact first.bind_error

/-- A result needs no recovery. -/
theorem Answers.tryCatch {attempt : Attempt σ α} {recover : Failure → Attempt σ α} {value : α}
    (first : Answers invariant attempt (.ok value)) :
    Answers invariant (tryCatch attempt recover) (.ok value) := by
  intro state holds
  obtain ⟨found, kept⟩ := first state holds
  rw [run_tryCatch]
  cases ran : attempt.run state with
  | mk result after =>
    rw [ran] at found kept
    cases found
    exact ⟨rfl, kept⟩

/-- What recovers from a failure decides the answer. -/
theorem Answers.tryCatch_error {attempt : Attempt σ α} {recover : Failure → Attempt σ α}
    {failure : Failure} {answer : Except Failure α}
    (first : Answers invariant attempt (.error failure))
    (later : Answers invariant (recover failure) answer) :
    Answers invariant (MonadExcept.tryCatch attempt recover) answer := by
  intro state holds
  obtain ⟨found, kept⟩ := first state holds
  rw [run_tryCatch]
  cases ran : attempt.run state with
  | mk result after =>
    rw [ran] at found kept
    cases found
    exact later after kept

/-- A computation that answers with a result settles, whatever is allowed. -/
theorem Answers.settles {attempt : Attempt σ α} {value : α}
    (first : Answers invariant attempt (.ok value)) : Settles invariant allowed attempt :=
  ⟨.ok value, nofun, first⟩

/-- A computation that answers with an allowed failure settles. -/
theorem Answers.settles_error {attempt : Attempt σ α} {failure : Failure}
    (first : Answers invariant attempt (.error failure)) (fits : allowed failure) :
    Settles invariant allowed attempt :=
  ⟨.error failure, fun _ same => Except.error.inj same ▸ fits, first⟩

/-- A known result settles. -/
theorem settles_pure (value : α) : Settles invariant allowed (pure value : Attempt σ α) :=
  (answers_pure value).settles

/-- A sequence settles when its first part does and its second part does behind every
result. -/
theorem Settles.bind {attempt : Attempt σ α} {next : α → Attempt σ β}
    (first : Settles invariant allowed attempt)
    (later : ∀ value, Settles invariant allowed (next value)) :
    Settles invariant allowed (attempt >>= next) := by
  obtain ⟨answer, fits, answers⟩ := first
  cases answer with
  | error failure => exact answers.bind_error.settles_error (fits failure rfl)
  | ok value =>
    obtain ⟨last, lastFits, lastAnswers⟩ := later value
    exact ⟨last, lastFits, answers.bind lastAnswers⟩

/-- A sequence settles as its second part does behind the result of the first. -/
theorem Answers.bind_settles {attempt : Attempt σ α} {next : α → Attempt σ β} {value : α}
    (first : Answers invariant attempt (.ok value))
    (later : Settles invariant allowed (next value)) :
    Settles invariant allowed (attempt >>= next) := by
  obtain ⟨answer, fits, answers⟩ := later
  exact ⟨answer, fits, first.bind answers⟩

/-- A computation settles if more failures are allowed. -/
theorem Settles.mono {wider : Failure → Prop} {attempt : Attempt σ α}
    (settled : Settles invariant allowed attempt)
    (within : ∀ failure, allowed failure → wider failure) : Settles invariant wider attempt := by
  obtain ⟨answer, fits, answers⟩ := settled
  exact ⟨answer, fun failure same => within failure (fits failure same), answers⟩

/-! ## Results of a kind -/

/-- A computation answers with a result of some kind, or is aborted. -/
def Yields (invariant : σ → Prop) (kind : α → Prop) (attempt : Attempt σ α) : Prop :=
  (∃ value, Answers invariant attempt (.ok value) ∧ kind value) ∨
    Answers invariant attempt (.error .aborted)

section Yields

variable {kind wider : α → Prop} {next : α → Attempt σ β} {other : β → Prop}
  {attempt : Attempt σ α}

/-- A known result of the kind is yielded. -/
theorem yields_pure {value : α} (holds : kind value) :
    Yields invariant kind (pure value : Attempt σ α) :=
  .inl ⟨value, answers_pure value, holds⟩

/-- What follows a known result decides what a sequence yields. -/
theorem Answers.bind_yields {value : α} (first : Answers invariant attempt (.ok value))
    (later : Yields invariant other (next value)) :
    Yields invariant other (attempt >>= next) := by
  rcases later with ⟨last, answers, holds⟩ | aborted
  · exact .inl ⟨last, first.bind answers, holds⟩
  · exact .inr (first.bind aborted)

/-- A sequence yields what its second part does behind every result of the kind. -/
theorem Yields.bind (first : Yields invariant kind attempt)
    (later : ∀ value, kind value → Yields invariant other (next value)) :
    Yields invariant other (attempt >>= next) := by
  rcases first with ⟨value, answers, holds⟩ | aborted
  · exact answers.bind_yields (later value holds)
  · exact .inr aborted.bind_error

/-- A function of the results that leads to another kind yields that. -/
theorem Yields.map {change : α → β} (first : Yields invariant kind attempt)
    (kept : ∀ value, kind value → other (change value)) :
    Yields invariant other (do return change (← attempt)) :=
  first.bind fun value holds => yields_pure (kept value holds)

/-- What is of a kind is of a wider one. -/
theorem Yields.mono (first : Yields invariant kind attempt)
    (within : ∀ value, kind value → wider value) : Yields invariant wider attempt := by
  rcases first with ⟨value, answers, holds⟩ | aborted
  · exact .inl ⟨value, answers, within value holds⟩
  · exact .inr aborted

/-- A computation that settles unless it is aborted yields some result. -/
theorem Settles.yields (settled : Settles invariant (· = .aborted) attempt) :
    Yields invariant (fun _ => True) attempt := by
  obtain ⟨answer, fits, answers⟩ := settled
  cases answer with
  | ok value => exact .inl ⟨value, answers, trivial⟩
  | error failure => exact .inr (fits failure rfl ▸ answers)

end Yields

end NoteTemplate.Template.Attempt
