import Mathlib.Logic.Relation
import NoteTemplate.Proofs.Answer
import NoteTemplate.Proofs.AssembledRendering
import NoteTemplate.Proofs.Session

/-!
# What a validation without findings leaves open

Some faults of a template do not depend on a context: tags that mean nothing, calls of unknown
functions, included templates and parents that do not exist, and texts that are no templates. A
validation that finds nothing rules these out for the nodes of the template and of all that it
includes, and for the text and the parents of the template itself (`validate_silent`). It says
nothing about the texts and the parents of the included templates, so these are all that can come up
in a rendering, unless it is aborted. That is shown along the walk of the validation over the
includes (`checkInclusion_silent`).
-/

namespace NoteTemplate

open Template (Attempt Compiled Fragment Node Warning)
open Template.Attempt

namespace Template

/-- Whether a warning is about a fault that does not depend on the context. -/
def Warning.isStatic : Warning → Bool
  | .malformed .. | .unknownFunction _ | .unknownTag _ | .missingInclusion _
  | .missingParent .. => true
  | _ => false

/-- All warnings of a fragment that do not depend on the context are about certain faults. -/
def Fragment.Confined (fault : Warning → Prop) (fragment : Fragment) : Prop :=
  ∀ warning ∈ fragment.warnings, warning.isStatic = true → fault warning

section Confined

variable {fault wider : Warning → Prop} {fragment : Fragment}

/-- Output without warnings is confined. -/
theorem Fragment.confined_of_nil (none : fragment.warnings = []) : fragment.Confined fault := by
  intro warning member
  simp [none] at member

/-- A fragment that is confined to some faults is confined to more. -/
theorem Fragment.Confined.mono (confined : fragment.Confined fault)
    (within : ∀ warning, fault warning → wider warning) : fragment.Confined wider :=
  fun warning member fixed => within warning (confined warning member fixed)

/-- A fragment is confined behind warnings that are. -/
theorem Fragment.Confined.after (confined : fragment.Confined fault) {before : List Warning}
    (each : ∀ warning ∈ before, warning.isStatic = true → fault warning) :
    (fragment.after before).Confined fault := by
  intro warning member fixed
  rcases List.mem_append.1 member with early | late
  · exact each warning early fixed
  · exact confined warning late fixed

/-- A call of a function that there is does not fail for want of it. -/
theorem call_ne_unknown {lookup : Lookup} {name source : String} (known : name ∈ functionNames) :
    call lookup name source ≠ .error .unknown := by
  unfold call
  cases found : function? name with
  | none =>
    simp only [functionNames, List.mem_cons, List.not_mem_nil, or_false] at known
    rcases known with rfl | rfl | rfl | rfl | rfl | rfl | rfl <;> cases found
  | some entry =>
    obtain ⟨needed, function⟩ := entry
    dsimp only
    split
    · exact nofun
    · exact fun faulty => (function?_fault found faulty).1 rfl

/-- What a call without a finding renders to has no warning but such as depend on the context. -/
theorem renderCall_confined {scope : Scope} {name source : String} {line : Nat}
    {fragment : Fragment} (silent : nodeFinding? (.call name source line) = none)
    (rendered : renderCall scope name source = .ok fragment) : fragment.Confined fault := by
  have known : name ∈ functionNames :=
    Classical.byContradiction fun unknown => by simp [nodeFinding?, unknown] at silent
  unfold renderCall at rendered
  cases outcome : call scope.lookup name source with
  | ok text =>
    rw [outcome] at rendered
    cases rendered
    exact Fragment.confined_of_nil rfl
  | error cause =>
    rw [outcome] at rendered
    intro warning here fixed
    cases cause <;> cases rendered <;> obtain rfl := List.mem_singleton.1 here
    · exact absurd outcome (call_ne_unknown known)
    all_goals cases fixed

/-- Nodes in which a validation finds nothing render by themselves to no warnings but such as
depend on the context. -/
theorem renderKnown_of_silent {nodes : List Node}
    (silent : ∀ node ∈ nodes, nodeFinding? node = none) (fault : Warning → Prop) :
    RenderKnown (Fragment.Confined fault) (· = .aborted) nodes := by
  refine ⟨fun node member scope fragment shown => ?_, fun _ _ _ => rfl⟩
  have nothing := silent node member
  match node with
  | .text _ =>
    cases shown
    exact Fragment.confined_of_nil rfl
  | .variable _ =>
    cases shown
    unfold renderVariable
    split <;> exact Fragment.confined_of_nil rfl
  | .call _ _ _ => exact renderCall_confined nothing (Option.some.inj shown)
  | .parent _ =>
    cases shown
    exact Fragment.confined_of_nil rfl
  | .unknown _ _ => cases nothing
  | .choice .. | .each .. | .block .. | .inclusion .. => cases shown

variable {σ : Type} {invariant : σ → Prop}

/-- A rendering yields a fragment that is confined to certain faults. -/
abbrev YieldsConfined (invariant : σ → Prop) (fault : Warning → Prop)
    (attempt : Attempt σ Fragment) : Prop :=
  Yields invariant (Fragment.Confined fault) attempt

/-- Iterations over the same items yield confined fragments when every single one does. -/
theorem renderItems_yieldsConfined {render : Value → Nat → Attempt σ Fragment}
    (each : ∀ item index, YieldsConfined invariant fault (render item index))
    (items : List Value) :
    ∀ index, Yields invariant (fun fragments => ∀ fragment ∈ fragments, fragment.Confined fault)
      (renderItems render index items) := by
  induction items with
  | nil => exact fun _ => yields_pure (by simp)
  | cons item rest ih =>
    intro index
    refine (each item index).bind fun first confined => ?_
    exact (ih (index + 1)).map fun _ others => List.forall_mem_cons.2 ⟨confined, others⟩

/-- To yield a confined fragment is kept by the ways in which a rendering puts fragments
together. -/
theorem assembles_yieldsConfined :
    @Assembles σ σ (Fragment.Confined fault) (· = .aborted) fun attempt _ =>
      YieldsConfined invariant fault attempt where
  empty := Fragment.confined_of_nil rfl
  fragment _ confined := yields_pure confined
  failure _ aborted := .inr (aborted ▸ answers_throw _)
  append first later :=
    first.bind fun _ before => later.map fun _ behind => behind.after before
  condition _ _ first := first.map fun _ confined => confined.after (by simp [Warning.isStatic])
  iterations each items := by
    refine (renderItems_yieldsConfined each items 0).map fun fragments confined => ?_
    intro warning member fixed
    obtain ⟨fragment, among, here⟩ := List.mem_flatMap.1 member
    exact confined fragment among warning here fixed

/-- A body whose nodes render by themselves to what is confined answers with what its insertions
are confined to. -/
theorem renderBody_confined_of_known {insert : Scope → String → Attempt σ Fragment}
    {nodes : List Node}
    (leaves : RenderKnown (Fragment.Confined fault) (· = .aborted) (Node.flattenAll nodes))
    (insertions : ∀ name line, Node.inclusion name line ∈ Node.flattenAll nodes →
      ∀ scope, YieldsConfined invariant fault (insert scope name)) (scope : Scope) :
    YieldsConfined invariant fault (renderBody insert scope nodes) := by
  have related : InsertionsRelated (fun attempt _ => YieldsConfined invariant fault attempt) []
      insert insert (Node.flattenAll nodes) := fun name line member scope _ _ =>
    insertions name line member scope
  exact renderBody_assembled assembles_yieldsConfined nodes (untouched_nil _) leaves related scope
    scope (.refl scope)

/-- A body without findings answers with what its insertions are confined to. -/
theorem renderBody_confined {insert : Scope → String → Attempt σ Fragment} {nodes : List Node}
    (silent : ∀ node ∈ Node.flattenAll nodes, nodeFinding? node = none)
    (insertions : ∀ name line, Node.inclusion name line ∈ Node.flattenAll nodes →
      ∀ scope, YieldsConfined invariant fault (insert scope name)) (scope : Scope) :
    YieldsConfined invariant fault (renderBody insert scope nodes) :=
  renderBody_confined_of_known (renderKnown_of_silent silent fault) insertions scope

end Confined

end Template

namespace MemoryStore

/-- What a rendering says about a template that it includes and that is found: one of its parents
is missing, or its text is no template. -/
inductive LoadFault (store : MemoryStore) (included : String) : Warning → Prop where
  /-- A parent of the template, or of one of its parents, is missing. -/
  | missingParent {template : Compiled} {child parent : String}
      (prepares : store.Prepares included (.ok (some template)))
      (missing : Warning.missingParent child parent ∈ template.warnings) :
      LoadFault store included (.missingParent child parent)
  /-- The text of the template, with its parents filled in, is no template. -/
  | malformed {template : Compiled} {error : Template.SyntaxError}
      (prepares : store.Prepares included (.ok (some template)))
      (failed : template.parsed = .error error) :
      LoadFault store included (Template.malformedInclusion included error)

/-- A fault of a template that a name includes, directly or through others. -/
def FaultBelow (store : MemoryStore) (name : String) (warning : Warning) : Prop :=
  ∃ included, Relation.TransGen store.Includes name included ∧ store.LoadFault included warning

/-- A fault of the template of a name or of one that it includes. -/
def FaultWithin (store : MemoryStore) (name : String) (warning : Warning) : Prop :=
  ∃ included, Relation.ReflTransGen store.Includes name included ∧
    store.LoadFault included warning

section Faults

variable {store : MemoryStore} {name included : String} {warning : Warning}

/-- A fault within what a template includes is a fault below the template. -/
theorem FaultWithin.below (fault : store.FaultWithin included warning)
    (includes : store.Includes name included) : store.FaultBelow name warning := by
  obtain ⟨last, path, faulty⟩ := fault
  exact ⟨last, .head' includes path, faulty⟩

/-- A fault below a template is a fault within it. -/
theorem FaultBelow.within (fault : store.FaultBelow name warning) :
    store.FaultWithin name warning := by
  obtain ⟨last, path, faulty⟩ := fault
  exact ⟨last, path.to_reflTransGen, faulty⟩

/-- What came up while a template was prepared is a fault within it. -/
theorem Prepares.faultWithin {template : Compiled}
    (prepares : store.Prepares name (.ok (some template))) (member : warning ∈ template.warnings) :
    store.FaultWithin name warning := by
  have fault : store.LoadFault name warning := by
    obtain ⟨resolved, resolves, same⟩ := prepares
    cases resolved with
    | error failure => cases same
    | ok resolved =>
      obtain ⟨text, _, rfl⟩ := Option.map_eq_some_iff.1 (Except.ok.inj same).symm
      obtain ⟨child, parent, rfl⟩ := resolves.missingParent_of_mem warning member
      exact .missingParent ⟨.ok resolved, resolves, same⟩ member
  exact ⟨name, .refl, fault⟩

end Faults

end MemoryStore

/-- A rendering has a document that is no fallback, and all its warnings that do not depend on the
context are about certain faults. -/
def RendersConfined (fault : Warning → Prop) (rendered : Option Document) : Prop :=
  ∃ document, rendered = some document ∧ document.isFallback = false ∧
    ∀ warning ∈ document.warnings, warning.isStatic = true → fault warning

section Stores

variable {store : MemoryStore} {history : History}

/-- The check of nodes answers when the checks of all that they include do, and when it finds
nothing, the nodes render to nothing but faults below their template. -/
theorem checkNodes_silent {check : String × Nat → Loading (List Finding)}
    {insert : Scope → String → Loading Fragment}
    (each : ∀ name line, ∃ findings,
      Answers (Cache.Coherent history) (check (name, line)) (.ok findings) ∧
      (findings = [] → ∀ scope, Template.YieldsConfined (Cache.Coherent history)
        (store.FaultWithin name) (insert scope name)))
    {name : String} {template : Compiled} {nodes : List Node}
    (prepares : store.Prepares name (.ok (some template))) (parsed : template.parsed = .ok nodes) :
    ∃ findings, Answers (Cache.Coherent history) (checkNodes check nodes) (.ok findings) ∧
      (findings = [] → ∀ scope, Template.YieldsConfined (Cache.Coherent history)
        (store.FaultBelow name) (Template.renderBody insert scope nodes)) := by
  obtain ⟨included, answers, parts⟩ := checkAll_answers
    (fun subject findings => findings = [] → ∀ scope, Template.YieldsConfined
      (Cache.Coherent history) (store.FaultWithin subject.1) (insert scope subject.1))
    (inclusions nodes) fun (name, line) _ => each name line
  refine ⟨_, answers.bind (answers_pure _), fun nothing scope => ?_⟩
  obtain ⟨nodesSilent, includedSilent⟩ := List.append_eq_nil_iff.1 nothing
  refine Template.renderBody_confined (List.filterMap_eq_nil_iff.1 nodesSilent) ?_ scope
  intro inner line member scope
  obtain ⟨first, listed⟩ := mem_inclusions member
  obtain ⟨part, subset, confined⟩ := parts _ listed
  have partSilent : part = [] := List.eq_nil_of_subset_nil (includedSilent ▸ subset)
  have includes : store.Includes name inner := ⟨template, nodes, line, prepares, parsed, member⟩
  exact (confined partSilent scope).mono fun _ within => within.mono fun _ fault =>
    fault.below includes

/-- A fetched template is inserted with nothing but faults within it, when that holds of its
nodes. -/
theorem insertFetched_confined {insert : Scope → String → Loading Fragment} {name : String}
    {template : Compiled} (prepares : store.Prepares name (.ok (some template)))
    (below : ∀ nodes, template.parsed = .ok nodes → ∀ scope, Template.YieldsConfined
      (Cache.Coherent history) (store.FaultBelow name) (Template.renderBody insert scope nodes))
    (scope : Scope) :
    Template.YieldsConfined (Cache.Coherent history) (store.FaultWithin name)
      (Template.insertFetched insert scope name (some template)) := by
  have own : ∀ warning ∈ template.warnings, warning.isStatic = true →
      store.FaultWithin name warning := fun _ member _ => prepares.faultWithin member
  cases parsed : template.parsed with
  | ok nodes =>
    simp only [Template.insertFetched, parsed]
    exact (below nodes parsed scope).map fun fragment confined =>
      (confined.mono fun _ fault => fault.within).after own
  | error error =>
    simp only [Template.insertFetched, parsed]
    refine yields_pure fun warning member fixed => ?_
    rcases List.mem_append.1 member with early | late
    · exact own warning early fixed
    · obtain rfl := List.mem_singleton.1 late
      exact ⟨name, .refl, .malformed prepares parsed⟩

/-- The check of an include answers with findings, and when there are none the template is
inserted in every scope, with nothing but faults within it. -/
theorem checkInclusion_silent (within : store.Within history) (limit remaining : Nat) :
    ∀ chain name line, ∃ findings, Answers (Cache.Coherent history)
        (store.shelf.checkInclusion limit remaining chain (name, line)) (.ok findings) ∧
      (findings = [] → ∀ scope, Template.YieldsConfined (Cache.Coherent history)
        (store.FaultWithin name)
        (Template.insertInto store.shelf.fetch limit remaining chain scope name)) := by
  -- A check with a finding says nothing about the rendering.
  have spoken : ∀ (finding : Finding) {conclusion : Prop}, [finding] = [] → conclusion :=
    fun _ _ nothing => absurd nothing (List.cons_ne_nil _ _)
  induction remaining with
  | zero =>
    intro chain name line
    unfold Shelf.checkInclusion
    split
    · exact ⟨_, answers_pure _, spoken _⟩
    · exact ⟨_, answers_pure _, spoken _⟩
  | succ remaining ih =>
    intro chain name line
    unfold Shelf.checkInclusion Template.insertInto
    by_cases met : name ∈ chain
    · simp only [if_pos met]
      exact ⟨_, answers_pure _, spoken _⟩
    · simp only [if_neg met]
      rcases includedOrFinding_answers within name line with
        ⟨template, fetched, found⟩ | ⟨_, missing⟩ | ⟨circle, circular⟩
      · have prepares := prepares_of_fetch within fetched
        cases parsed : template.parsed with
        | ok nodes =>
          obtain ⟨findings, answers, confined⟩ :=
            checkNodes_silent (ih (chain ++ [name])) prepares parsed
          refine ⟨findings, found.bind (by simpa only [parsed] using answers), ?_⟩
          intro nothing scope
          refine fetched.bind_yields (insertFetched_confined prepares (fun inner same => ?_) scope)
          obtain rfl := Except.ok.inj (parsed.symm.trans same)
          exact confined nothing
        | error error =>
          refine ⟨[], found.bind (by simpa only [parsed] using answers_pure _), ?_⟩
          intro _ scope
          refine fetched.bind_yields (insertFetched_confined prepares (fun inner same => ?_) scope)
          cases parsed.symm.trans same
      · exact ⟨_, missing.bind (answers_pure _), spoken _⟩
      · exact ⟨_, circular.bind (answers_pure _), spoken _⟩

/-- The check of a template with its parents filled in answers, and when it finds nothing, nor
anything in the stored text, no parent is missing and the template has nodes that render to nothing
but faults below it. -/
theorem checkFilledIn_silent (within : store.Within history) (limit : Nat) {name : String}
    {source : Source} {resolved : Resolved} (found : store.stored? name = some source)
    (resolves : Resolves store.stored? [] name (.ok resolved)) {template : Compiled}
    (prepares : store.Prepares name (.ok (some template))) :
    ∃ findings, Answers (Cache.Coherent history)
        (store.shelf.checkFilledIn limit name source.text template) (.ok findings) ∧
      (sourceFindings source.text ++ findings = [] → template.warnings = [] ∧
        ∃ nodes, template.parsed = .ok nodes ∧ ∀ scope,
          Template.YieldsConfined (Cache.Coherent history) (store.FaultBelow name)
            (Template.renderBody (Template.insertInto store.shelf.fetch limit limit [name]) scope
              nodes)) := by
  obtain ⟨blocks, blockAnswers⟩ := checkBlocks_answers within found resolves
  unfold Shelf.checkFilledIn
  cases parsed : template.parsed with
  | ok nodes =>
    obtain ⟨inner, answers, confined⟩ := checkNodes_silent
      (checkInclusion_silent within limit limit [name]) prepares parsed
    refine ⟨_, answers.bind (blockAnswers.bind (answers_pure _)), fun nothing => ?_⟩
    simp only [List.append_eq_nil_iff, List.map_eq_nil_iff] at nothing
    obtain ⟨-, ⟨unwarned, innerSilent⟩, -⟩ := nothing
    exact ⟨unwarned, nodes, rfl, confined innerSilent⟩
  | error error =>
    cases own : Template.parse source.text with
    | ok nodes =>
      refine ⟨_, (answers_pure _).bind (blockAnswers.bind (answers_pure _)), fun nothing => ?_⟩
      simp at nothing
    | error fault =>
      refine ⟨_, (answers_pure _).bind (blockAnswers.bind (answers_pure _)), fun nothing => ?_⟩
      simp [sourceFindings, own] at nothing

/-- A document of nodes that render to nothing but certain faults, where no parent is missing, has
no other warnings that do not depend on the context. -/
theorem render_confined {limit : Nat} {name : String} {template : Compiled} {nodes : List Node}
    {fault : Warning → Prop} (named : template.name = name) (proper : name ≠ "")
    (unwarned : template.warnings = []) (parsed : template.parsed = .ok nodes)
    (loaded : Answers (Cache.Coherent history) (store.shelf.load name) (.ok (some template)))
    (body : ∀ scope, Template.YieldsConfined (Cache.Coherent history) fault
      (Template.renderBody (Template.insertInto store.shelf.fetch limit limit [name]) scope nodes))
    (context : Context) :
    Yields (Cache.Coherent history) (RendersConfined fault)
      (store.shelf.render limit name context) := by
  rcases body ⟨context, []⟩ with ⟨fragment, rendered, confined⟩ | aborted
  · refine .inl ⟨_, render_of_body named proper parsed loaded rendered, _, rfl, rfl,
      fun warning member fixed => ?_⟩
    rw [unwarned, List.nil_append] at member
    rcases List.mem_append.1 member with shown | header
    · exact confined warning shown fixed
    · obtain ⟨cause, _, rfl⟩ := List.mem_map.1 header
      cases fixed
  · exact .inr (render_of_body named proper parsed loaded aborted)

/-- A validation of a stored template answers with a report, and if the report is empty every
rendering of the template yields a document whose warnings, as far as they do not depend on the
context, are faults of templates that it includes. -/
theorem validate_answers_silent (within : store.Within history) (limit : Nat) {name : String}
    {source : Source} (allowed : isTemplateName name = true)
    (found : store.stored? name = some source) :
    ∃ report : Report, Answers (Cache.Coherent history) (store.shelf.validate limit name)
        (.ok (some report)) ∧
      (report.findings = [] → ∀ context, Yields (Cache.Coherent history)
        (RendersConfined (store.FaultBelow name)) (store.shelf.render limit name context)) := by
  have proper := ne_empty_of_isTemplateName allowed
  unfold Shelf.validate
  rw [MemoryStore.read_of_isTemplateName allowed, found]
  rcases loadOrFinding_answers within allowed found with
    ⟨circle, circular⟩ | ⟨resolved, template, resolves, named, loaded, finding⟩
  · refine ⟨_, (answers_ofExcept _).bind (circular.bind (answers_pure _)), fun nothing => ?_⟩
    simp at nothing
  · have prepares : store.Prepares name (.ok (some template)) := by
      apply prepares_of_fetch within
      simpa only [Shelf.fetch, allowed, if_true] using loaded
    obtain ⟨findings, answers, confined⟩ :=
      checkFilledIn_silent within limit found resolves prepares
    refine ⟨_, (answers_ofExcept _).bind (finding.bind (answers.bind (answers_pure _))), ?_⟩
    intro nothing context
    obtain ⟨unwarned, nodes, parsed, body⟩ := confined nothing
    exact render_confined named proper unwarned parsed loaded body context

end Stores

/-- Whatever an engine did on a store before, the validation of a stored template gives a report,
and if the report is empty every later rendering of the template gives a document that is no
fallback, or is aborted by the template or by one that it includes, directly or through others. The
warnings of the document that do not depend on the context are about the parents and the texts of
such included templates: no function and no tag is unknown, and neither an included template nor a
parent of the template itself is missing. -/
theorem validate_silent (store : MemoryStore) (limit capacity : Nat) (name : String)
    (stored : store.shelf.contains name = .ok true) (before : List EngineStep) :
    ∃ (report : Report) (after : Cache),
      (store.shelf.validate limit name).run
          (EngineStep.cacheAfter limit store (.ofCapacity capacity) before) =
        (.ok (some report), after) ∧
      (report.findings = [] → ∀ (between : List EngineStep) (context : Context),
        let answer := ((store.shelf.render limit name context).run
          (EngineStep.cacheAfter limit store after between)).1
        (∃ document : Document, answer = .ok (some document) ∧ document.isFallback = false ∧
          ∀ warning ∈ document.warnings, warning.isStatic = true →
            ∃ included, Relation.TransGen store.Includes name included ∧
              store.LoadFault included warning) ∨
          answer = .error .aborted ∧ store.CanAbort name) := by
  obtain ⟨allowed, present⟩ := (store.contains_iff name).1 stored
  obtain ⟨source, found⟩ := Option.isSome_iff_exists.1 present
  have within := store.within_history
  obtain ⟨report, answers, silent⟩ := validate_answers_silent within limit allowed found
  have coherent := EngineStep.cacheAfter_coherent within limit before _
    (Cache.coherent_ofCapacity store.history capacity)
  obtain ⟨answer, kept⟩ := answers _ coherent
  refine ⟨report, _, Prod.ext answer rfl, fun nothing between context => ?_⟩
  have later := EngineStep.cacheAfter_coherent within limit between _ kept
  rcases silent nothing context with ⟨_, rendered, document, rfl, proper, confined⟩ | aborted
  · exact .inl ⟨document, (rendered _ later).1, proper, confined⟩
  · exact .inr ⟨(aborted _ later).1, canAbort_of_aborted within (aborted _ later).1 later⟩

/-- A store with a template that includes two others: of the one the parent is missing, and the
text of the other leaves a choice open. -/
def unsoundParts : MemoryStore :=
  ⟨[("note", ⟨Template.tagText "include \"part\"" ++ Template.tagText "include \"rest\"", 1⟩),
    ("part", ⟨Template.tagText "extends \"gone\"" ++ "tail", 2⟩),
    ("rest", ⟨Template.tagText "#if late" ++ "more", 3⟩)], 3⟩

/-- The validation of the template finds nothing, and what comes up in its rendering is about the
parts. -/
theorem unsoundParts_validate :
    unsoundParts.shelf.contains "note" = .ok true ∧
    ∃ (report : Report) (after : Cache),
      (unsoundParts.shelf.validate 8 "note").run (.ofCapacity 4) = (.ok (some report), after) ∧
      report.findings = [] ∧
      ∃ document : Document,
        ((unsoundParts.shelf.render 8 "note" .empty).run after).1 = .ok (some document) ∧
        document.isFallback = false ∧
        ∀ warning ∈ document.warnings, warning.isStatic = true →
          ∃ included, Relation.TransGen unsoundParts.Includes "note" included ∧
            unsoundParts.LoadFault included warning := by
  have stored : unsoundParts.shelf.contains "note" = .ok true := rfl
  obtain ⟨report, after, ran, silent⟩ := validate_silent unsoundParts 8 4 "note" stored []
  have judged : ((unsoundParts.shelf.validate 8 "note").run (.ofCapacity 4)).1.toOption.join.map
      Report.findings = some [] := by decide +kernel
  have nothing : report.findings = [] := by
    rw [show (unsoundParts.shelf.validate 8 "note").run (.ofCapacity 4) = _ from ran] at judged
    exact Option.some.inj judged
  refine ⟨stored, report, after, ran, nothing, ?_⟩
  rcases silent nothing [] .empty with rendered | ⟨aborted, -⟩
  · exact rendered
  · have succeeds : ((unsoundParts.shelf.render 8 "note" .empty).run
        ((unsoundParts.shelf.validate 8 "note").run (.ofCapacity 4)).2).1.isOk = true := by
      decide +kernel
    rw [show (unsoundParts.shelf.validate 8 "note").run (.ofCapacity 4) = _ from ran] at succeeds
    rw [show ((unsoundParts.shelf.render 8 "note" .empty).run after).1 = _ from aborted] at succeeds
    cases succeeds

/-- Both faults are shown, and neither was found. -/
example : ((unsoundParts.shelf.render 8 "note" .empty).run (.ofCapacity 4)).1.toOption.join.map
    Document.warnings = some [.missingParent "part" "gone",
      .malformed "in included template 'rest': unclosed \x7b\x7b#if\x7d\x7d" 1] := by
  decide +kernel

end NoteTemplate
