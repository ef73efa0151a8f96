import NoteTemplate.Proofs.CachedLoading
import NoteTemplate.Proofs.RenderingAnswer
import NoteTemplate.Validation

/-!
# What a validation promises

The walk of a validation over includes and the walk of a rendering are different
recursions: the one visits every branch once, the other the branches that a context
selects, as often as it selects them. Both go down the same chain with the same limit, so
what the first reports nothing about, the second passes without a failure, unless a node
aborts it (`checkInclusion_answers`): the first does not read the patterns of dates. With the
answers of loading this gives a report for every stored template, and a document for every
one whose report has no error and whose rendering is not aborted.
-/

namespace NoteTemplate

open Template (Attempt Compiled Fragment Node)
open Template.Attempt

/-- None of some findings makes a template invalid. -/
def Faultless (findings : List Finding) : Prop := ∀ finding ∈ findings, finding.isError = false

/-- A part of findings without an error has no error. -/
theorem Faultless.of_subset {part findings : List Finding} (faultless : Faultless findings)
    (subset : part ⊆ findings) : Faultless part :=
  fun finding member => faultless finding (subset member)

/-- A report is valid when its findings have no error. -/
theorem Report.isValid_iff (report : Report) :
    report.isValid = true ↔ Faultless report.findings := by
  simp [Report.isValid, Faultless]

section Checks

variable {σ α : Type} {invariant : σ → Prop}

/-- Checks that all answer answer together, and the findings of each are among those of
all. -/
theorem checkAll_answers {check : α → Attempt σ (List Finding)} (outcome : α → List Finding → Prop)
    (subjects : List α) (each : ∀ subject ∈ subjects, ∃ findings,
      Answers invariant (check subject) (.ok findings) ∧ outcome subject findings) :
    ∃ findings, Answers invariant (checkAll check subjects) (.ok findings) ∧
      ∀ subject ∈ subjects, ∃ part, part ⊆ findings ∧ outcome subject part := by
  induction subjects with
  | nil => exact ⟨[], answers_pure _, by simp⟩
  | cons subject rest ih =>
    obtain ⟨first, firstAnswers, firstOutcome⟩ := each subject List.mem_cons_self
    obtain ⟨others, othersAnswers, othersOutcome⟩ :=
      ih fun subject member => each subject (List.mem_cons_of_mem _ member)
    refine ⟨first ++ others, firstAnswers.bind (othersAnswers.bind (answers_pure _)), ?_⟩
    intro found member
    rcases List.mem_cons.1 member with rfl | later
    · exact ⟨first, List.subset_append_left _ _, firstOutcome⟩
    · obtain ⟨part, subset, holds⟩ := othersOutcome found later
      exact ⟨part, List.Subset.trans subset (List.subset_append_right _ _), holds⟩

/-- The names that were found are kept, and each further one is found with some line. -/
theorem mem_foldl_inclusions (included : List (String × Nat)) :
    ∀ found : List (String × Nat), ∀ name, (∃ line, (name, line) ∈ found ++ included) →
      ∃ line, (name, line) ∈ included.foldl (fun found (name, line) =>
        if found.any (·.1 = name) then found else found ++ [(name, line)]) found := by
  induction included with
  | nil => exact fun found name member => by simpa using member
  | cons first rest ih =>
    intro found name ⟨line, member⟩
    obtain ⟨key, keyLine⟩ := first
    rw [List.foldl_cons]
    apply ih
    dsimp only
    split
    · rename_i known
      rcases List.mem_append.1 member with early | late
      · exact ⟨line, List.mem_append_left _ early⟩
      · rcases List.mem_cons.1 late with same | later
        · cases same
          obtain ⟨⟨other, otherLine⟩, here, same⟩ := List.any_eq_true.1 known
          obtain rfl : other = name := by simpa using same
          exact ⟨otherLine, List.mem_append_left _ here⟩
        · exact ⟨line, List.mem_append_right _ later⟩
    · exact ⟨line, by simpa using member⟩

/-- Every name that some nodes include is one of their inclusions. -/
theorem mem_inclusions {nodes : List Node} {name : String} {line : Nat}
    (member : Node.inclusion name line ∈ Node.flattenAll nodes) :
    ∃ first, (name, first) ∈ inclusions nodes := by
  apply mem_foldl_inclusions
  refine ⟨line, ?_⟩
  rw [List.nil_append, List.mem_filterMap]
  exact ⟨_, member, rfl⟩

/-- Checks of nodes answer when the checks of all that they include do, and without an
error the insertions of all that they include settle, unless they are aborted. -/
theorem checkNodes_answers {check : String × Nat → Attempt σ (List Finding)}
    {insert : Scope → String → Attempt σ Fragment}
    (each : ∀ name line, ∃ findings, Answers invariant (check (name, line)) (.ok findings) ∧
      (Faultless findings → ∀ scope, Settles invariant (· = .aborted) (insert scope name)))
    (nodes : List Node) :
    ∃ findings, Answers invariant (checkNodes check nodes) (.ok findings) ∧
      (Faultless findings →
        Template.InsertionsSettle invariant (· = .aborted) insert (Node.flattenAll nodes)) := by
  obtain ⟨included, answers, parts⟩ := checkAll_answers
    (fun subject findings => Faultless findings →
      ∀ scope, Settles invariant (· = .aborted) (insert scope subject.1))
    (inclusions nodes) fun (name, line) _ => each name line
  refine ⟨_, answers.bind (answers_pure _), fun faultless name line member => ?_⟩
  obtain ⟨first, listed⟩ := mem_inclusions member
  obtain ⟨part, subset, settles⟩ := parts _ listed
  exact settles (faultless.of_subset (List.Subset.trans subset (List.subset_append_right _ _)))

end Checks

section Stores

variable {store : MemoryStore} {history : History}

/-- Loading what is included answers with the template, or with a finding that is an error
unless there is no template. -/
theorem includedOrFinding_answers (within : store.Within history) (name : String) (line : Nat) :
    (∃ template, Answers (Cache.Coherent history) (store.shelf.fetch name) (.ok (some template)) ∧
      Answers (Cache.Coherent history) (store.shelf.includedOrFinding name line)
        (.ok (.ok template))) ∨
    (Answers (Cache.Coherent history) (store.shelf.fetch name) (.ok none) ∧
      Answers (Cache.Coherent history) (store.shelf.includedOrFinding name line)
        (.ok (.error (.missingInclusion name line)))) ∨
    ∃ circle, Answers (Cache.Coherent history) (store.shelf.includedOrFinding name line)
      (.ok (.error (.circular circle (some line)))) := by
  obtain ⟨answer, answers, given⟩ := fetch_answers within name
  unfold Shelf.includedOrFinding
  cases answer with
  | ok found =>
    cases found with
    | some template =>
      refine .inl ⟨template, answers, Answers.tryCatch (answers.bind ?_)⟩
      exact answers_pure _
    | none =>
      refine .inr (.inl ⟨answers, Answers.tryCatch (answers.bind ?_)⟩)
      exact answers_pure _
  | error failure =>
    have prepares : store.Prepares name (.error failure) := by
      rcases given with ⟨_, prepares⟩ | missing
      · exact prepares
      · cases missing
    obtain ⟨circle, rfl⟩ := prepares.circular_of_error
    exact .inr (.inr ⟨circle, answers.bind_error.tryCatch_error (answers_pure _)⟩)

/-- The check of an include answers with findings, and without an error among them the
insertion of the include settles in every scope, unless it is aborted. -/
theorem checkInclusion_answers (within : store.Within history) (limit remaining : Nat) :
    ∀ chain name line, ∃ findings, Answers (Cache.Coherent history)
        (store.shelf.checkInclusion limit remaining chain (name, line)) (.ok findings) ∧
      (Faultless findings → ∀ scope, Settles (Cache.Coherent history) (· = .aborted)
        (Template.insertInto store.shelf.fetch limit remaining chain scope name)) := by
  induction remaining with
  | zero =>
    intro chain name line
    unfold Shelf.checkInclusion
    split
    · refine ⟨_, answers_pure _, fun faultless => ?_⟩
      cases faultless _ (List.mem_singleton.2 rfl)
    · refine ⟨_, answers_pure _, fun faultless => ?_⟩
      cases faultless _ (List.mem_singleton.2 rfl)
  | succ remaining ih =>
    intro chain name line
    unfold Shelf.checkInclusion Template.insertInto
    by_cases met : name ∈ chain
    · simp only [if_pos met]
      refine ⟨_, answers_pure _, fun faultless => ?_⟩
      cases faultless _ (List.mem_singleton.2 rfl)
    · simp only [if_neg met]
      rcases includedOrFinding_answers within name line with
        ⟨template, fetched, found⟩ | ⟨fetched, missing⟩ | ⟨circle, circular⟩
      · cases parsed : template.parsed with
        | ok nodes =>
          obtain ⟨findings, answers, settle⟩ := checkNodes_answers (ih (chain ++ [name])) nodes
          refine ⟨findings, found.bind (by simpa only [parsed] using answers), ?_⟩
          intro faultless scope
          refine fetched.bind_settles (Template.insertFetched_settles ?_ scope)
          intro _ inner same innerParsed
          cases same
          rw [parsed] at innerParsed
          exact ⟨fun _ _ _ => rfl, Except.ok.inj innerParsed ▸ settle faultless⟩
        | error error =>
          refine ⟨[], found.bind (by simpa only [parsed] using answers_pure _), ?_⟩
          intro _ scope
          refine fetched.bind_settles (Template.insertFetched_settles ?_ scope)
          intro _ inner same innerParsed
          cases same
          rw [parsed] at innerParsed
          cases innerParsed
      · refine ⟨_, missing.bind (answers_pure _), fun _ scope => ?_⟩
        exact fetched.bind_settles (settles_pure _)
      · refine ⟨_, circular.bind (answers_pure _), fun faultless => ?_⟩
        cases faultless _ (List.mem_singleton.2 rfl)

/-- A template that resolves has parents that load, so the check of its blocks answers. -/
theorem checkBlocks_answers (within : store.Within history) {name : String} {source : Source}
    {resolved : Resolved} (found : store.stored? name = some source)
    (resolves : Resolves store.stored? [] name (.ok resolved)) :
    ∃ findings, Answers (Cache.Coherent history) (store.shelf.checkBlocks name source.text)
      (.ok findings) := by
  unfold Shelf.checkBlocks
  cases next : Template.parentName? source.text.toList with
  | none => exact ⟨_, answers_pure _⟩
  | some parent =>
    cases allowed : isTemplateName parent with
    | false =>
      simp only [allowed, Bool.false_eq_true, if_false]
      exact ⟨_, answers_pure _⟩
    | true =>
      simp only [allowed, if_true]
      obtain ⟨upper, above⟩ := resolves.parent found next allowed
      obtain ⟨answer, prepares, answers⟩ := load_answers within allowed
      obtain rfl := prepares.functional ⟨_, above, rfl⟩
      have text : Answers (Cache.Coherent history) (store.shelf.loadText parent)
          (.ok ((upper.compiled? parent).map Compiled.text)) :=
        answers.map (Option.map Compiled.text)
      cases loaded : (upper.compiled? parent).map Compiled.text with
      | none => exact ⟨_, (loaded ▸ text).bind (answers_pure _)⟩
      | some parentText => exact ⟨_, (loaded ▸ text).bind (answers_pure _)⟩

/-- A stored text that is no template gives an error among the findings of its source. -/
theorem sourceFindings_not_faultless {text : String} {error : Template.SyntaxError}
    (failed : Template.parse text = .error error) : ¬ Faultless (sourceFindings text) := by
  intro faultless
  have member : Finding.malformed error ∈ sourceFindings text := by
    simp [sourceFindings, failed]
  cases faultless _ member

/-- The check of a loaded template answers, and without an error, also in the stored text,
the template has nodes below which every insertion settles. -/
theorem checkFilledIn_answers (within : store.Within history) (limit : Nat) {name : String}
    {source : Source} {resolved : Resolved} (found : store.stored? name = some source)
    (resolves : Resolves store.stored? [] name (.ok resolved)) (template : Compiled) :
    ∃ findings, Answers (Cache.Coherent history)
        (store.shelf.checkFilledIn limit name source.text template) (.ok findings) ∧
      (Faultless (sourceFindings source.text ++ findings) →
        ∃ nodes, template.parsed = .ok nodes ∧
          Template.InsertionsSettle (Cache.Coherent history) (· = .aborted)
            (Template.insertInto store.shelf.fetch limit limit [name])
            (Node.flattenAll nodes)) := by
  obtain ⟨blocks, blockAnswers⟩ := checkBlocks_answers within found resolves
  unfold Shelf.checkFilledIn
  cases parsed : template.parsed with
  | ok nodes =>
    obtain ⟨inner, answers, settle⟩ := checkNodes_answers
      (checkInclusion_answers within limit limit [name]) nodes
    refine ⟨_, answers.bind (blockAnswers.bind (answers_pure _)), fun faultless => ?_⟩
    refine ⟨nodes, rfl, settle (faultless.of_subset fun finding member => ?_)⟩
    simp [member]
  | error error =>
    cases own : Template.parse source.text with
    | ok nodes =>
      refine ⟨_, (answers_pure _).bind (blockAnswers.bind (answers_pure _)), fun faultless => ?_⟩
      cases faultless (.malformedFilledIn error) (by simp)
    | error fault =>
      refine ⟨_, (answers_pure _).bind (blockAnswers.bind (answers_pure _)), fun faultless => ?_⟩
      exact (sourceFindings_not_faultless own
        (faultless.of_subset (List.subset_append_left _ _))).elim

/-- Loading a stored template for a validation answers with the template, or with an error. -/
theorem loadOrFinding_answers (within : store.Within history) {name : String} {source : Source}
    (allowed : isTemplateName name = true) (found : store.stored? name = some source) :
    (∃ circle, Answers (Cache.Coherent history) (store.shelf.loadOrFinding name)
      (.ok (.error (.circular circle none)))) ∨
    ∃ resolved template, Resolves store.stored? [] name (.ok resolved) ∧ template.name = name ∧
      Answers (Cache.Coherent history) (store.shelf.load name) (.ok (some template)) ∧
      Answers (Cache.Coherent history) (store.shelf.loadOrFinding name)
        (.ok (.ok (some template))) := by
  obtain ⟨answer, ⟨resolved, resolves, rfl⟩, answers⟩ := load_answers within allowed
  unfold Shelf.loadOrFinding
  cases resolved with
  | error failure =>
    obtain ⟨circle, rfl⟩ := resolves.circular_of_error
    exact .inl ⟨circle, answers.bind_error.tryCatch_error (answers_pure _)⟩
  | ok resolved =>
    obtain ⟨text, texts⟩ := Option.isSome_iff_exists.1 (resolves.text_isSome (by simp [found]))
    have loaded : Answers (Cache.Coherent history) (store.shelf.load name)
        (.ok (some (Compiled.ofText name text resolved.warnings))) := by
      simpa only [Except.map, Resolved.compiled?, texts, Option.map_some] using answers
    refine .inr ⟨resolved, _, resolves, rfl, loaded, Answers.tryCatch (loaded.bind ?_)⟩
    exact answers_pure _

section Compiled

variable {σ : Type} {invariant : σ → Prop} {fetch : Template.Fetch σ} {limit : Nat}
  {template : Compiled} {context : Context}

/-- A template is rendered as its tree is. -/
theorem renderCompiled_of_tree {nodes : List Node} (parsed : template.parsed = .ok nodes)
    {answer : Except Failure Fragment}
    (tree : Answers invariant (Template.renderTree fetch limit template.name context nodes)
      answer) :
    Answers invariant (renderCompiled fetch limit template context)
      (answer.map fun fragment => .ofText template.name (Template.tidy fragment.text)
        (template.warnings ++ fragment.warnings) false) := by
  unfold renderCompiled
  rw [parsed]
  exact tree.map _

/-- A text that is no template is shown as it stands. -/
theorem renderCompiled_of_error {error : Template.SyntaxError}
    (failed : template.parsed = .error error) :
    Answers invariant (renderCompiled fetch limit template context)
      (.ok (.ofText template.name template.text
        (template.warnings ++ [.malformed error.message error.line]) true)) := by
  unfold renderCompiled
  rw [failed]
  exact answers_pure _

end Compiled

/-- A template that is loaded renders as its nodes do below a chain that holds nothing but its
name. -/
theorem render_of_body {limit : Nat} {name : String} {template : Compiled} {nodes : List Node}
    (named : template.name = name) (proper : name ≠ "") (parsed : template.parsed = .ok nodes)
    (loaded : Answers (Cache.Coherent history) (store.shelf.load name) (.ok (some template)))
    {context : Context} {answer : Except Failure Fragment}
    (body : Answers (Cache.Coherent history)
      (Template.renderBody (Template.insertInto store.shelf.fetch limit limit [name])
        ⟨context, []⟩ nodes) answer) :
    Answers (Cache.Coherent history) (store.shelf.render limit name context)
      (answer.map fun fragment => some (.ofText name (Template.tidy fragment.text)
        (template.warnings ++ fragment.warnings) false)) := by
  subst named
  have tree : Answers (Cache.Coherent history)
      (Template.renderTree store.shelf.fetch limit template.name context nodes) answer := by
    simpa only [Template.renderTree, Template.startChain, if_neg proper, List.length_singleton,
      Nat.add_sub_cancel] using body
  have compiled := renderCompiled_of_tree parsed tree
  refine loaded.bind ?_
  cases answer with
  | ok fragment => exact compiled.map some
  | error failure => exact compiled.map some

/-- A rendering has a document that is no fallback. -/
def RendersProperly (rendered : Option Document) : Prop :=
  ∃ document, rendered = some document ∧ document.isFallback = false

/-- A rendering of a template whose insertions settle has a document that is no fallback, unless it
is aborted. -/
theorem render_answers {limit : Nat} {name : String} {template : Compiled} {nodes : List Node}
    (named : template.name = name) (proper : name ≠ "") (parsed : template.parsed = .ok nodes)
    (loaded : Answers (Cache.Coherent history) (store.shelf.load name) (.ok (some template)))
    (settle : Template.InsertionsSettle (Cache.Coherent history) (· = .aborted)
      (Template.insertInto store.shelf.fetch limit limit [name]) (Node.flattenAll nodes))
    (context : Context) :
    Yields (Cache.Coherent history) RendersProperly (store.shelf.render limit name context) := by
  have aborts : Template.AbortsPermitted (· = .aborted) (Node.flattenAll nodes) := fun _ _ _ => rfl
  rcases (Template.renderBody_settles _ nodes aborts settle ⟨context, []⟩).yields with
    ⟨fragment, rendered, -⟩ | aborted
  · exact .inl ⟨_, render_of_body named proper parsed loaded rendered, _, rfl, rfl⟩
  · exact .inr (render_of_body named proper parsed loaded aborted)

/-- A validation of a stored template answers with a report, and if the report is valid
every rendering of the template answers with a document that is no fallback, or is aborted. -/
theorem validate_answers (within : store.Within history) (limit : Nat) {name : String}
    {source : Source} (allowed : isTemplateName name = true)
    (found : store.stored? name = some source) :
    ∃ report : Report, Answers (Cache.Coherent history) (store.shelf.validate limit name)
        (.ok (some report)) ∧
      (report.isValid = true → ∀ context, Yields (Cache.Coherent history) RendersProperly
        (store.shelf.render limit name context)) := by
  have proper := ne_empty_of_isTemplateName allowed
  unfold Shelf.validate
  rw [MemoryStore.read_of_isTemplateName allowed, found]
  rcases loadOrFinding_answers within allowed found with
    ⟨circle, circular⟩ | ⟨resolved, template, resolves, named, loaded, finding⟩
  · refine ⟨_, (answers_ofExcept _).bind (circular.bind (answers_pure _)), fun valid => ?_⟩
    have faultless := (Report.isValid_iff _).1 valid
    cases faultless (.circular circle none) (by simp)
  · obtain ⟨findings, answers, settle⟩ := checkFilledIn_answers within limit found resolves template
    refine ⟨_, (answers_ofExcept _).bind (finding.bind (answers.bind (answers_pure _))), ?_⟩
    intro valid context
    obtain ⟨nodes, parsed, below⟩ := settle ((Report.isValid_iff _).1 valid)
    exact render_answers named proper parsed loaded below context

end Stores

end NoteTemplate
