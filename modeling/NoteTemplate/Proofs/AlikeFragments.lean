import Mathlib.Data.List.Forall2
import NoteTemplate.Proofs.Answer
import NoteTemplate.Proofs.AssembledRendering

/-!
# Renderings with fragments that are alike

Fragments can be alike in a respect that matters: the text may be the same, or some of the
warnings. When the respect is kept by the ways in which a rendering puts fragments together
(`Likeness`), two renderings of a tree answer alike as soon as their insertions do
(`Likeness.assembles`), whatever the states remember. Both may fail in a way that is permitted, and
the first of the two may fail by itself in ways that are allowed.
-/

namespace NoteTemplate.Template

open Attempt

/-- A likeness of fragments that is kept by the ways in which a rendering puts fragments
together. A fragment of a known kind is like itself. -/
structure Likeness (known : Fragment → Prop) (alike : Fragment → Fragment → Prop) : Prop where
  /-- No output is of the known kind. -/
  empty : known .empty
  /-- A fragment of the known kind is like itself. -/
  refl : ∀ fragment, known fragment → alike fragment fragment
  /-- Fragments one behind another are alike. -/
  append : ∀ {first later twin twinLater : Fragment}, alike first twin → alike later twinLater →
    alike (first.append later) (twin.append twinLater)
  /-- Fragments behind the warning for a condition are alike. -/
  condition : ∀ {first twin : Fragment} (condition : String) (fault : ConditionFault),
    alike first twin →
    alike (first.after [.condition condition fault]) (twin.after [.condition condition fault])
  /-- Iterations are alike. -/
  iterations : ∀ {fragments twins : List Fragment}, List.Forall₂ alike fragments twins →
    alike (joinIterations fragments) (joinIterations twins)

section Alike

variable {σ τ α β : Type} {invariant : σ → Prop} {twinInvariant : τ → Prop}
  {permitted allowed : Failure → Prop}

/-- Two answers are results that are alike, or the same permitted failure. -/
inductive SameAnswer (permitted : Failure → Prop) (alike : α → α → Prop) :
    Except Failure α → Except Failure α → Prop where
  /-- Both are results. -/
  | result {result twin : α} (same : alike result twin) :
      SameAnswer permitted alike (.ok result) (.ok twin)
  /-- Both are one failure. -/
  | failure {failure : Failure} (fits : permitted failure) :
      SameAnswer permitted alike (.error failure) (.error failure)

/-- Two computations answer in the same way, unless the first fails in an allowed way. -/
def AnswerAlike (invariant : σ → Prop) (twinInvariant : τ → Prop)
    (permitted allowed : Failure → Prop) (alike : α → α → Prop) (attempt : Attempt σ α)
    (twin : Attempt τ α) : Prop :=
  ∃ answer twinAnswer, Answers invariant attempt answer ∧ Answers twinInvariant twin twinAnswer ∧
    (SameAnswer permitted alike answer twinAnswer ∨
      ∃ failure, allowed failure ∧ answer = .error failure)

/-- Known results answer alike when they are alike. -/
theorem answerAlike_pure {alike : α → α → Prop} {result twin : α} (same : alike result twin) :
    AnswerAlike invariant twinInvariant permitted allowed alike (pure result) (pure twin) :=
  ⟨_, _, answers_pure result, answers_pure twin, .inl (.result same)⟩

/-- A permitted failure answers like itself. -/
theorem answerAlike_throw {alike : α → α → Prop} {failure : Failure} (fits : permitted failure) :
    AnswerAlike invariant twinInvariant permitted allowed alike (throw failure) (throw failure) :=
  ⟨_, _, answers_throw failure, answers_throw failure, .inl (.failure fits)⟩

/-- Sequences answer alike when their second parts do behind results that are alike. What follows
the twin has to answer in any case, since the first computation may have failed before. -/
theorem AnswerAlike.bind {alike : α → α → Prop} {alikeNext : β → β → Prop}
    {attempt : Attempt σ α} {twin : Attempt τ α} {next : α → Attempt σ β}
    {twinNext : α → Attempt τ β}
    (first : AnswerAlike invariant twinInvariant permitted allowed alike attempt twin)
    (goes : ∀ result, ∃ last, Answers twinInvariant (twinNext result) last)
    (later : ∀ result other, alike other result →
      AnswerAlike invariant twinInvariant permitted allowed alikeNext (next other)
        (twinNext result)) :
    AnswerAlike invariant twinInvariant permitted allowed alikeNext (attempt >>= next)
      (twin >>= twinNext) := by
  obtain ⟨answer, twinAnswer, answers, twinAnswers, outcome⟩ := first
  rcases outcome with same | ⟨failure, fits, rfl⟩
  · cases same with
    | result same =>
      obtain ⟨last, twinLast, lastAnswers, twinLastAnswers, lastOutcome⟩ := later _ _ same
      exact ⟨last, twinLast, answers.bind lastAnswers, twinAnswers.bind twinLastAnswers,
        lastOutcome⟩
    | failure fits =>
      exact ⟨_, _, answers.bind_error, twinAnswers.bind_error, .inl (.failure fits)⟩
  · have fails : Answers invariant (attempt >>= next) (.error failure) := answers.bind_error
    cases twinAnswer with
    | ok result =>
      obtain ⟨last, lastAnswers⟩ := goes result
      exact ⟨_, last, fails, twinAnswers.bind lastAnswers, .inr ⟨failure, fits, rfl⟩⟩
    | error cause => exact ⟨_, _, fails, twinAnswers.bind_error, .inr ⟨failure, fits, rfl⟩⟩

/-- Behind a result, what follows decides whether a computation answers like its twin. -/
theorem AnswerAlike.behind {alike : β → β → Prop} {attempt : Attempt σ α} {value : α}
    {next : α → Attempt σ β} {twin : Attempt τ β} (first : Answers invariant attempt (.ok value))
    (later : AnswerAlike invariant twinInvariant permitted allowed alike (next value) twin) :
    AnswerAlike invariant twinInvariant permitted allowed alike (attempt >>= next) twin := by
  obtain ⟨answer, twinAnswer, answers, twinAnswers, outcome⟩ := later
  exact ⟨answer, twinAnswer, first.bind answers, twinAnswers, outcome⟩

/-- Functions of the results answer alike when they keep the likeness. -/
theorem AnswerAlike.map {alike : α → α → Prop} {alikeNext : β → β → Prop}
    {attempt : Attempt σ α} {twin : Attempt τ α} {change twinChange : α → β}
    (first : AnswerAlike invariant twinInvariant permitted allowed alike attempt twin)
    (kept : ∀ result other, alike other result → alikeNext (change other) (twinChange result)) :
    AnswerAlike invariant twinInvariant permitted allowed alikeNext (do return change (← attempt))
      (do return twinChange (← twin)) :=
  first.bind (fun _ => ⟨_, answers_pure _⟩) fun result other same =>
    answerAlike_pure (kept result other same)

/-- A function of the results of the first computation keeps it alike when it keeps the likeness. -/
theorem AnswerAlike.mapFirst {alike alikeNext : α → α → Prop}
    {attempt : Attempt σ α} {twin : Attempt τ α} {change : α → α}
    (first : AnswerAlike invariant twinInvariant permitted allowed alike attempt twin)
    (kept : ∀ result other, alike other result → alikeNext (change other) result) :
    AnswerAlike invariant twinInvariant permitted allowed alikeNext (do return change (← attempt))
      twin := by
  simpa only [bind_pure] using
    first.bind (fun _ => ⟨_, answers_pure _⟩) fun result other same =>
      answerAlike_pure (kept result other same)

/-- Iterations over the same items answer alike when every single one does. -/
theorem renderItems_answerAlike {alike : Fragment → Fragment → Prop}
    {render : Value → Nat → Attempt σ Fragment} {twinRender : Value → Nat → Attempt τ Fragment}
    (each : ∀ item index, AnswerAlike invariant twinInvariant permitted allowed alike
      (render item index) (twinRender item index)) (items : List Value) :
    ∀ index, AnswerAlike invariant twinInvariant permitted allowed (List.Forall₂ alike)
      (renderItems render index items) (renderItems twinRender index items) := by
  induction items with
  | nil => exact fun _ => answerAlike_pure .nil
  | cons item rest ih =>
    intro index
    refine (each item index).bind (fun first => ?_) fun first other same => ?_
    · obtain ⟨-, others, -, answers, -⟩ := ih (index + 1)
      exact ⟨_, answers.map (first :: ·)⟩
    · exact (ih (index + 1)).map fun _ _ sameRest => .cons same sameRest

/-- Renderings that answer with fragments that are alike can be put together. -/
theorem Likeness.assembles {known : Fragment → Prop} {alike : Fragment → Fragment → Prop}
    (likeness : Likeness known alike) :
    Assembles known permitted fun (attempt : Attempt σ Fragment) (twin : Attempt τ Fragment) =>
      AnswerAlike invariant twinInvariant permitted allowed alike attempt twin where
  empty := likeness.empty
  fragment fragment shown := answerAlike_pure (likeness.refl fragment shown)
  failure _ fits := answerAlike_throw fits
  append first later := by
    refine first.bind (fun fragment => ?_) fun fragment other same => ?_
    · obtain ⟨-, rest, -, answers, -⟩ := later
      exact ⟨_, answers.map fragment.append⟩
    · exact later.map fun _ _ sameRest => likeness.append same sameRest
  condition condition fault first :=
    first.map fun _ _ same => likeness.condition condition fault same
  iterations each items :=
    (renderItems_answerAlike each items 0).map fun _ _ same => likeness.iterations same

end Alike

end NoteTemplate.Template
