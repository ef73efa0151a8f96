import Mathlib.Data.List.Basic
import NoteTemplate.Proofs.Session

/-!
# Text that is not stored

A text can be rendered among the stored templates without a name, or be stored under a new name and
rendered by it. A name counts towards the length of the chain of includes, so the text without a
name may include one level more. Apart from this the two renderings agree
(`renderText_agrees_render`): with the limit one greater, the stored text renders to the same
document, or both fail in the same way. With the same limit they agree unless the rendering of the
stored text is too deep.
-/

namespace NoteTemplate

open Template (Attempt Compiled Node)
open Template.Attempt

/-- Two outcomes are results that are the same in some sense, or circles, or include one template
too deep, or both are aborted. -/
inductive SameOutcome {α β : Type} (same : α → β → Prop) :
    Except Failure α → Except Failure β → Prop where
  /-- Both are results. -/
  | result {result : α} {twin : β} (alike : same result twin) :
      SameOutcome same (.ok result) (.ok twin)
  /-- Both are circles. -/
  | circular (circle twin : List String) :
      SameOutcome same (.error (.circular circle)) (.error (.circular twin))
  /-- Both refuse the same include. -/
  | tooDeep (refused : String) (limit twin : Nat) :
      SameOutcome same (.error (.tooDeep refused limit)) (.error (.tooDeep refused twin))
  /-- Both are aborted. -/
  | aborted : SameOutcome same (.error .aborted) (.error .aborted)

/-- Functions of results that are the same give outcomes that are the same. -/
theorem SameOutcome.map {α β γ δ : Type} {same : α → β → Prop} {sameNext : γ → δ → Prop}
    {outcome : Except Failure α} {twin : Except Failure β} (alike : SameOutcome same outcome twin)
    {change : α → γ} {twinChange : β → δ}
    (kept : ∀ result twin, same result twin → sameNext (change result) (twinChange twin)) :
    SameOutcome sameNext (outcome.map change) (twin.map twinChange) := by
  cases alike with
  | result alike => exact .result (kept _ _ alike)
  | circular circle twin => exact .circular circle twin
  | tooDeep refused limit twin => exact .tooDeep refused limit twin
  | aborted => exact .aborted

namespace Template.Attempt

variable {σ α : Type} {invariant : σ → Prop} {excused : Failure → Prop}

/-- Two computations have the same outcome, unless the second fails in a way that is excused. -/
def KeepsPace (invariant : σ → Prop) (excused : Failure → Prop) (attempt twin : Attempt σ α) :
    Prop :=
  ∃ outcome twinOutcome, Answers invariant attempt outcome ∧ Answers invariant twin twinOutcome ∧
    (SameOutcome Eq outcome twinOutcome ∨ ∃ failure, excused failure ∧ twinOutcome = .error failure)

/-- Two computations with the same outcome keep pace. -/
theorem keepsPace_of_same {attempt twin : Attempt σ α} {outcome twinOutcome : Except Failure α}
    (same : SameOutcome Eq outcome twinOutcome) (answers : Answers invariant attempt outcome)
    (twinAnswers : Answers invariant twin twinOutcome) : KeepsPace invariant excused attempt twin :=
  ⟨outcome, twinOutcome, answers, twinAnswers, .inl same⟩

/-- To keep pace is kept by sequencing. -/
theorem composes_keepsPace :
    @Composes σ σ (· = .aborted) fun attempt twin =>
      KeepsPace invariant excused attempt twin where
  result result := keepsPace_of_same (.result rfl) (answers_pure result) (answers_pure result)
  failure failure fits := by
    subst fits
    exact keepsPace_of_same .aborted (answers_throw .aborted) (answers_throw .aborted)
  sequence {_ _ first twin next twinNext} paced later := by
    obtain ⟨outcome, twinOutcome, answers, twinAnswers, same | ⟨failure, fits, rfl⟩⟩ := paced
    · cases same with
      | result alike =>
        subst alike
        obtain ⟨last, twinLast, lastAnswers, twinLastAnswers, lastSame⟩ := later _
        exact ⟨last, twinLast, answers.bind lastAnswers, twinAnswers.bind twinLastAnswers, lastSame⟩
      | circular circle twinCircle =>
        exact keepsPace_of_same (.circular circle twinCircle) answers.bind_error
          twinAnswers.bind_error
      | tooDeep refused limit twinLimit =>
        exact keepsPace_of_same (.tooDeep refused limit twinLimit) answers.bind_error
          twinAnswers.bind_error
      | aborted => exact keepsPace_of_same .aborted answers.bind_error twinAnswers.bind_error
    · have fails : Answers invariant (twin >>= twinNext) (.error failure) := twinAnswers.bind_error
      cases outcome with
      | error cause => exact ⟨_, _, answers.bind_error, fails, .inr ⟨failure, fits, rfl⟩⟩
      | ok result =>
        obtain ⟨last, _, lastAnswers, -⟩ := later result
        exact ⟨last, _, answers.bind lastAnswers, fails, .inr ⟨failure, fits, rfl⟩⟩

/-- Behind one result, only what follows has to keep pace. -/
theorem KeepsPace.behind {β : Type} {attempt twin : Attempt σ α} {result : α}
    {next twinNext : α → Attempt σ β} (answers : Answers invariant attempt (.ok result))
    (twinAnswers : Answers invariant twin (.ok result))
    (later : KeepsPace invariant excused (next result) (twinNext result)) :
    KeepsPace invariant excused (attempt >>= next) (twin >>= twinNext) := by
  obtain ⟨last, twinLast, lastAnswers, twinLastAnswers, same⟩ := later
  exact ⟨last, twinLast, answers.bind lastAnswers, twinAnswers.bind twinLastAnswers, same⟩

end Template.Attempt

/-- What resolves in a store resolves alike in one that differs in a name that is no parent. -/
theorem Resolves.of_agree_off {stored? other? : String → Option Source} {chain : List String}
    {name added : String} {answer : Except Failure Resolved}
    (resolves : Resolves stored? chain name answer)
    (agree : ∀ key, key ≠ added → other? key = stored? key)
    (unextended : ∀ key source, stored? key = some source → source.parent? ≠ some added)
    (different : name ≠ added) : Resolves other? chain name answer := by
  induction resolves with
  | missing absent => exact .missing ((agree _ different).trans absent)
  | root found last => exact .root ((agree _ different).trans found) last
  | circular found next met => exact .circular ((agree _ different).trans found) next met
  | orphan found next new refused =>
    exact .orphan ((agree _ different).trans found) next new refused
  | filled found next new allowed _ ih =>
    have parentDifferent := fun same => unextended _ _ found (next.trans (congrArg some same))
    exact .filled ((agree _ different).trans found) next new allowed (ih parentDifferent)
  | failed found next new allowed _ ih =>
    have parentDifferent := fun same => unextended _ _ found (next.trans (congrArg some same))
    exact .failed ((agree _ different).trans found) next new allowed (ih parentDifferent)

namespace MemoryStore

/-- Neither a text nor a stored template mentions a name: none includes it and none extends it. -/
structure Unmentioned (store : MemoryStore) (text name : String) : Prop where
  /-- The text does not include the name. -/
  notIncluded : ∀ nodes line, Template.parse text = .ok nodes →
    Node.inclusion name line ∉ Node.flattenAll nodes
  /-- No stored template includes the name. -/
  includedNowhere : ∀ other, ¬ store.Includes other name
  /-- No stored text extends the name. -/
  extendedNowhere : ∀ other source, store.stored? other = some source →
    source.parent? ≠ some name

section Written

variable {store : MemoryStore} {name text : String}

/-- A new text leaves a store within the history of what is stored then. -/
theorem within_write (store : MemoryStore) (text : String) (allowed : isTemplateName name = true)
    (absent : store.stored? name = none) : store.Within (store.write name text).2.history := by
  intro key source found
  apply within_history
  have different : key ≠ name := by
    rintro rfl
    rw [absent] at found
    cases found
  rw [stored?_write allowed, if_neg different]
  exact found

/-- A new text without a parent is prepared as it is. -/
theorem prepares_write (store : MemoryStore) (allowed : isTemplateName name = true)
    (parentless : Template.parentName? text.toList = none) :
    (store.write name text).2.Prepares name (.ok (some (Compiled.ofText name text []))) := by
  have found : (store.write name text).2.stored? name = some ⟨text, store.clock + 1⟩ := by
    rw [stored?_write allowed, if_pos rfl]
  exact ⟨_, .root found parentless, rfl⟩

/-- A new text changes nothing for other names when no stored text extends it. -/
theorem Prepares.write (allowed : isTemplateName name = true)
    (unextended : ∀ other source, store.stored? other = some source →
      source.parent? ≠ some name)
    {other : String} {answer : Except Failure (Option Compiled)}
    (prepares : store.Prepares other answer) (different : other ≠ name) :
    (store.write name text).2.Prepares other answer := by
  obtain ⟨resolved, resolves, same⟩ := prepares
  refine ⟨resolved, resolves.of_agree_off (fun key otherKey => ?_) unextended different, same⟩
  rw [stored?_write allowed, if_neg otherKey]

end Written

end MemoryStore

section Renderings

variable {store : MemoryStore} {name text : String} {history : History}

/-- Before and after a text is stored, templates of other names are fetched alike when none extends
the new one, and fail to be by a circle only. -/
theorem fetch_write (allowed : isTemplateName name = true) (within : store.Within history)
    (withinWritten : (store.write name text).2.Within history)
    (unextended : ∀ other source, store.stored? other = some source →
      source.parent? ≠ some name)
    {included : String} (different : included ≠ name) :
    ∃ answer, Answers (Cache.Coherent history) (store.shelf.fetch included) answer ∧
      Answers (Cache.Coherent history) ((store.write name text).2.shelf.fetch included) answer ∧
      (answer = .ok none ∨ store.Prepares included answer) := by
  cases includedAllowed : isTemplateName included with
  | false =>
    refine ⟨.ok none, ?_, ?_, .inl rfl⟩
    · simpa only [Shelf.fetch, includedAllowed, Bool.false_eq_true, if_false] using
        answers_pure none
    · simpa only [Shelf.fetch, includedAllowed, Bool.false_eq_true, if_false] using
        answers_pure none
  | true =>
    obtain ⟨answer, prepares, answers⟩ := load_answers within includedAllowed
    obtain ⟨twin, twinPrepares, twinAnswers⟩ := load_answers withinWritten includedAllowed
    obtain rfl := twinPrepares.functional (prepares.write allowed unextended different)
    refine ⟨twin, ?_, ?_, .inr prepares⟩
    · simpa only [Shelf.fetch, includedAllowed, if_true] using answers
    · simpa only [Shelf.fetch, includedAllowed, if_true] using twinAnswers

/-- Below chains that differ in the name of the text, other templates are inserted alike. If there
is less room in the store with the text, only a failure for want of room is excused. -/
theorem insertInto_keepsPace (allowed : isTemplateName name = true) (within : store.Within history)
    (withinWritten : (store.write name text).2.Within history)
    (unmentioned : store.Unmentioned text name) (limit twinLimit : Nat)
    {excused : Failure → Prop} (twinRemaining : Nat) :
    ∀ (remaining : Nat) (chain : List String) (scope other : Scope) (included : String),
      twinRemaining ≤ remaining →
      (twinRemaining < remaining → ∀ refused, excused (.tooDeep refused twinLimit)) →
      included ≠ name → scope.AgreeOff [] other →
      KeepsPace (Cache.Coherent history) excused
        (Template.insertInto store.shelf.fetch limit remaining chain scope included)
        (Template.insertInto (store.write name text).2.shelf.fetch twinLimit twinRemaining
          (name :: chain) other included) := by
  induction twinRemaining with
  | zero =>
    intro remaining chain scope other included _ excuse different agree
    by_cases met : included ∈ chain
    · have twinMet : included ∈ name :: chain := List.mem_cons_of_mem _ met
      exact keepsPace_of_same (.circular _ _) (Template.insertInto_met met)
        (Template.insertInto_met twinMet)
    · have twinNew : included ∉ name :: chain := by simp [different, met]
      cases remaining with
      | zero =>
        exact keepsPace_of_same (.tooDeep included limit twinLimit) (Template.insertInto_full met)
          (Template.insertInto_full twinNew)
      | succ remaining =>
        obtain ⟨outcome, -, answers⟩ :=
          insertInto_aborts within limit (remaining + 1) chain scope included
        have fits := excuse (Nat.succ_pos remaining) included
        exact ⟨outcome, _, answers, Template.insertInto_full twinNew, .inr ⟨_, fits, rfl⟩⟩
  | succ twinRemaining ih =>
    intro remaining chain scope other included enough excuse different agree
    obtain ⟨remaining, rfl⟩ : ∃ more, remaining = more + 1 :=
      Nat.exists_eq_add_one_of_ne_zero (by omega)
    by_cases met : included ∈ chain
    · have twinMet : included ∈ name :: chain := List.mem_cons_of_mem _ met
      exact keepsPace_of_same (.circular _ _) (Template.insertInto_met met)
        (Template.insertInto_met twinMet)
    · have twinNew : included ∉ name :: chain := by simp [different, met]
      rw [Template.insertInto, Template.insertInto, if_neg met, if_neg twinNew]
      obtain ⟨answer, answers, twinAnswers, prepares⟩ :=
        fetch_write allowed within withinWritten unmentioned.extendedNowhere different
      cases answer with
      | error failure =>
        obtain ⟨circle, rfl⟩ : ∃ circle, failure = .circular circle := by
          rcases prepares with missing | prepares
          · cases missing
          · exact prepares.circular_of_error
        exact keepsPace_of_same (.circular circle circle) answers.bind_error
          twinAnswers.bind_error
      | ok fetched =>
        refine KeepsPace.behind answers twinAnswers ?_
        refine Template.insertFetched_related composes_keepsPace ?_ agree
        rintro template nodes rfl parsed
        refine ⟨Template.untouched_nil _, fun _ _ _ => rfl,
          fun inner line member scope other agree => ?_⟩
        have innerDifferent : inner ≠ name := by
          rintro rfl
          rcases prepares with missing | prepares
          · cases missing
          · exact unmentioned.includedNowhere included
              ⟨template, nodes, line, prepares, parsed, member⟩
        exact ih remaining (chain ++ [included]) scope other inner (by omega)
          (fun less => excuse (by omega)) innerDifferent agree

/-- The outcomes of the renderings of a text without a name and with one: documents that are equal
but for the name, or failures of one kind. -/
def SameRendering : Except Failure Document → Except Failure (Option Document) → Prop :=
  SameOutcome fun unnamed stored =>
    stored.map (fun document => { document with template := "" }) = some unnamed

/-- The renderings of a text without a name, and under a new one, keep pace. If there is not one
level more for the stored text, a failure for want of it is excused. -/
theorem renderText_keepsPace (allowed : isTemplateName name = true)
    (absent : store.stored? name = none) (parentless : Template.parentName? text.toList = none)
    (unmentioned : store.Unmentioned text name) (limit twinLimit : Nat)
    (enough : twinLimit ≤ limit + 1) (context : Context) :
    let written := (store.write name text).2
    ∃ outcome twinOutcome,
      Answers (Cache.Coherent written.history) (store.shelf.renderText limit text context) outcome ∧
      Answers (Cache.Coherent written.history) (written.shelf.render twinLimit name context)
        twinOutcome ∧
      (SameRendering outcome twinOutcome ∨ twinLimit < limit + 1 ∧
        ∃ refused, twinOutcome = .error (.tooDeep refused twinLimit)) := by
  intro written
  have within := store.within_write text allowed absent
  have withinWritten := written.within_history
  have prepares := store.prepares_write allowed parentless
  obtain ⟨answer, found, loaded⟩ := load_answers withinWritten allowed
  obtain rfl := found.functional prepares
  cases parsed : Template.parse text with
  | error fault =>
    -- The text is shown as it stands on both sides.
    have failed : ∀ name, (Compiled.ofText name text []).parsed = .error fault := fun _ => parsed
    have unnamed : Answers (Cache.Coherent written.history)
        (store.shelf.renderText limit text context) _ := renderCompiled_of_error (failed "")
    have named : Answers (Cache.Coherent written.history)
        (renderCompiled written.shelf.fetch twinLimit (.ofText name text []) context) _ :=
      renderCompiled_of_error (failed name)
    exact ⟨_, _, unnamed, loaded.bind (named.map some), .inl (.result rfl)⟩
  | ok nodes =>
    have paced : KeepsPace (Cache.Coherent written.history)
        (fun failure => twinLimit < limit + 1 ∧ ∃ refused, failure = .tooDeep refused twinLimit)
        (Template.renderBody (Template.insertInto store.shelf.fetch limit (limit + 1) [])
          ⟨context, []⟩ nodes)
        (Template.renderBody (Template.insertInto written.shelf.fetch twinLimit twinLimit [name])
          ⟨context, []⟩ nodes) := by
      refine Template.renderBody_related composes_keepsPace nodes (Template.untouched_nil _)
        (fun _ _ _ => rfl) (fun inner line member scope other agree => ?_) _ _ (.refl _)
      have different : inner ≠ name := by
        rintro rfl
        exact unmentioned.notIncluded nodes line parsed member
      exact insertInto_keepsPace allowed within withinWritten unmentioned limit twinLimit twinLimit
        (limit + 1) [] scope other inner enough (fun less refused => ⟨less, refused, rfl⟩) different
        agree
    obtain ⟨outcome, twinOutcome, answers, twinAnswers, same⟩ := paced
    have proper := ne_empty_of_isTemplateName allowed
    have parsedText : ∀ name, (Compiled.ofText name text []).parsed = .ok nodes := fun _ => parsed
    have unnamed : Answers (Cache.Coherent written.history)
        (store.shelf.renderText limit text context) _ :=
      renderCompiled_of_tree (parsedText "") answers
    have isNamed : (Compiled.ofText name text []).name = name := rfl
    have named := render_of_body isNamed proper (parsedText name) loaded twinAnswers
    refine ⟨_, _, unnamed, named, ?_⟩
    rcases same with same | ⟨failure, ⟨less, refused, rfl⟩, rfl⟩
    · left
      refine same.map fun fragment twin alike => ?_
      subst alike
      rfl
    · exact .inr ⟨less, refused, rfl⟩

end Renderings

/-- Whatever an engine did on a store, a text without a parent can be stored under a new name that
neither it nor a stored template mentions. With one level more, the stored text renders as the text
did without a name: to the same document, or both fail by a circle, refuse the same include or are
aborted. With the same limit it does so as well, unless an include of the stored text is too
deep. -/
theorem renderText_agrees_render (store : MemoryStore) (limit capacity : Nat) {name text : String}
    (parentless : Template.parentName? text.toList = none) (allowed : isTemplateName name = true)
    (absent : store.stored? name = none) (unmentioned : store.Unmentioned text name)
    (context : Context) (before between : List EngineStep) :
    let written := store.write name text
    let cache := EngineStep.cacheAfter limit store (.ofCapacity capacity) before
    let unnamed := (store.shelf.renderText limit text context).run cache
    let later := EngineStep.cacheAfter limit written.2 unnamed.2 between
    let stored := fun limit => ((written.2.shelf.render limit name context).run later).1
    written.1 = .ok () ∧ SameRendering unnamed.1 (stored (limit + 1)) ∧
      (SameRendering unnamed.1 (stored limit) ∨
        ∃ refused, stored limit = .error (.tooDeep refused limit)) := by
  intro written cache unnamed later stored
  have within := store.within_write text allowed absent
  have withinWritten := written.2.within_history
  have coherent : cache.Coherent written.2.history :=
    EngineStep.cacheAfter_coherent within limit before _
      (Cache.coherent_ofCapacity written.2.history capacity)
  obtain ⟨outcome, twinOutcome, answers, twinAnswers, same⟩ :=
    renderText_keepsPace allowed absent parentless unmentioned limit (limit + 1) (Nat.le_refl _) context
  obtain ⟨again, level, answersAgain, levelAnswers, sameLevel⟩ :=
    renderText_keepsPace allowed absent parentless unmentioned limit limit (Nat.le_succ limit)
      context
  obtain ⟨first, kept⟩ := answers cache coherent
  have laterCoherent : later.Coherent written.2.history :=
    EngineStep.cacheAfter_coherent withinWritten limit between _ kept
  have firstAgain : unnamed.1 = again := (answersAgain cache coherent).1
  have deeper : stored (limit + 1) = twinOutcome := (twinAnswers later laterCoherent).1
  have equal : stored limit = level := (levelAnswers later laterCoherent).1
  refine ⟨MemoryStore.write_of_isTemplateName allowed, ?_, ?_⟩
  · rw [deeper, show unnamed.1 = outcome from first]
    rcases same with same | ⟨less, -⟩
    · exact same
    · omega
  · rw [equal, firstAgain]
    rcases sameLevel with same | ⟨-, tooDeep⟩
    · exact .inl same
    · exact .inr tooDeep

/-- A text does not include a template that is not listed. -/
theorem notMem_of_inclusions {text name : String} {listed : List (String × Nat)}
    (included : (Template.parse text).toOption.map inclusions = some listed) {nodes : List Node}
    (parsed : Template.parse text = .ok nodes) (absent : name ∉ listed.map Prod.fst) (line : Nat) :
    Node.inclusion name line ∉ Node.flattenAll nodes := by
  intro member
  obtain ⟨first, among⟩ := mem_inclusions member
  rw [parsed] at included
  rw [Option.some.inj included] at among
  exact absent (List.mem_map_of_mem among)

/-- A store with one template. -/
def singlePart : MemoryStore := ⟨[("part", ⟨"tail", 1⟩)], 1⟩

/-- A text that includes the template renders alike with and without a name, if there is one level
more for the text with the name. -/
theorem singlePart_renderText :
    let text := Template.tagText "include \"part\""
    Template.parentName? text.toList = none ∧ isTemplateName "note" = true ∧
    singlePart.stored? "note" = none ∧ singlePart.Unmentioned text "note" ∧
    let written := singlePart.write "note" text
    let cache := EngineStep.cacheAfter 0 singlePart (.ofCapacity 4) [.load "part"]
    let unnamed := (singlePart.shelf.renderText 0 text .empty).run cache
    let later := EngineStep.cacheAfter 0 written.2 unnamed.2 []
    let stored := fun limit => ((written.2.shelf.render limit "note" .empty).run later).1
    written.1 = .ok () ∧ SameRendering unnamed.1 (stored 1) ∧
      (SameRendering unnamed.1 (stored 0) ∨
        ∃ refused, stored 0 = .error (.tooDeep refused 0)) := by
  intro text
  have parentless : Template.parentName? text.toList = none := by decide +kernel
  have allowed : isTemplateName "note" = true := by decide
  have absent : singlePart.stored? "note" = none := by decide
  have unmentioned : singlePart.Unmentioned text "note" := by
    refine ⟨fun nodes line parsed => ?_, ?_, ?_⟩
    · have listed : (Template.parse text).toOption.map inclusions = some [("part", 1)] := by
        decide +kernel
      exact notMem_of_inclusions listed parsed (by decide) line
    · rintro other ⟨template, nodes, line, prepares, parsed, member⟩
      by_cases part : other = "part"
      · subst part
        have known : singlePart.Prepares "part" (.ok (some (Compiled.ofText "part" "tail" []))) :=
          ⟨_, .root rfl (by decide +kernel), rfl⟩
        obtain rfl := Option.some.inj (Except.ok.inj (prepares.functional known))
        have listed : (Template.parse "tail").toOption.map inclusions = some [] := by
          decide +kernel
        exact notMem_of_inclusions listed parsed (by simp) line member
      · have missing : singlePart.stored? other = none := by
          simp [singlePart, MemoryStore.stored?, Fields.find?, part]
        cases prepares.functional ⟨_, .missing missing, rfl⟩
    · intro other source found extended
      have same : source = ⟨"tail", 1⟩ := by
        simp only [singlePart, MemoryStore.stored?, Fields.find?] at found
        split at found
        · exact (Option.some.inj found).symm
        · cases found
      have parentless : Source.parent? ⟨"tail", 1⟩ = none := by decide +kernel
      rw [same, parentless] at extended
      cases extended
  exact ⟨parentless, allowed, absent, unmentioned,
    renderText_agrees_render singlePart 0 4 parentless allowed absent unmentioned .empty
      [.load "part"] []⟩

/-- With the same limit, the text without a name is rendered and the one with a name is too deep. -/
example :
    let text := Template.tagText "include \"part\""
    let written := (singlePart.write "note" text).2
    ((singlePart.shelf.renderText 0 text .empty).run (.ofCapacity 4)).1.toOption.map
        Document.text = some "tail" ∧
      ((written.shelf.render 0 "note" .empty).run (.ofCapacity 4)).1.map (fun _ => ()) =
        .error (.tooDeep "part" 0) := by
  decide +kernel

end NoteTemplate
