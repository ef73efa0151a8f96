import NoteTemplate.Proofs.ParentCircles
import NoteTemplate.Proofs.ParsedTree
import NoteTemplate.Proofs.Session

/-!
# What an invalid report means

A validation looks at a stored text as it stands and at the text with its parents filled in; a
rendering looks at the second only. For a template that includes nothing, a report is invalid when
one of the two texts is no template, or when the parents form a circle (`validate_answers_exactly`),
and all renderings fail or fall back when the second is no template, or in the same circle. So an
invalid report is wrong about the renderings exactly when filling in the parents mends the text
(`invalid_iff_falls_short`). For a template without a parent that cannot be.
-/

namespace NoteTemplate

open Template (Attempt Compiled Node)
open Template.Attempt

namespace Template

/-- A text is a template: it has a tree. -/
def IsTemplate (text : String) : Prop := ∃ nodes, parse text = .ok nodes

/-- No tag of a text includes another template. -/
def IncludesNothing (text : String) : Prop :=
  ∀ placed ∈ tokens text, ∀ included, placed.token ≠ .inclusion included

/-- A text that has no tree is no template. -/
theorem not_isTemplate_of_error {text : String} {error : SyntaxError}
    (parsed : parse text = .error error) : ¬ IsTemplate text := by
  rintro ⟨nodes, other⟩
  rw [parsed] at other
  cases other

/-! ## Includes in trees and in texts -/

namespace Node

variable {name : String} {line : Nat}

mutual

/-- An include in a node was read from a tag. -/
theorem spelled_of_mem_flatten : ∀ node : Node, inclusion name line ∈ node.flatten →
    ⟨.inclusion name, some line⟩ ∈ node.spelled
  | .choice branches none, member => by
    rw [flatten, List.mem_cons] at member
    have below := spelled_of_mem_flattenBranches branches .choice (member.resolve_left nofun)
    exact List.mem_append_left _ below
  | .choice branches (some body), member => by
    rw [flatten, List.mem_cons, List.mem_append] at member
    rcases member.resolve_left nofun with among | last
    · exact List.mem_append_left _ (spelled_of_mem_flattenBranches branches .choice among)
    · have below := spelled_of_mem_flattenAll body last
      exact List.mem_append_right _ (List.mem_cons_of_mem _ (List.mem_append_left _ below))
  | .each path body, member => by
    rw [flatten, List.mem_cons] at member
    have below := spelled_of_mem_flattenAll body (member.resolve_left nofun)
    exact List.mem_cons_of_mem _ (List.mem_append_left _ below)
  | .block title body, member => by
    rw [flatten, List.mem_cons] at member
    have below := spelled_of_mem_flattenAll body (member.resolve_left nofun)
    exact List.mem_cons_of_mem _ (List.mem_append_left _ below)
  | .inclusion _ _, member => by
    obtain ⟨rfl, rfl⟩ := Node.inclusion.inj (List.mem_singleton.1 member)
    exact List.mem_singleton_self _
  | .text _, member => nomatch List.mem_singleton.1 member
  | .variable _, member => nomatch List.mem_singleton.1 member
  | .call .., member => nomatch List.mem_singleton.1 member
  | .parent _, member => nomatch List.mem_singleton.1 member
  | .unknown .., member => nomatch List.mem_singleton.1 member

/-- An include in a body was read from a tag. -/
theorem spelled_of_mem_flattenAll : ∀ nodes : List Node, inclusion name line ∈ flattenAll nodes →
    ⟨.inclusion name, some line⟩ ∈ spelledAll nodes
  | node :: rest, member => by
    rw [flattenAll, List.mem_append] at member
    rcases member with here | later
    · exact List.mem_append_left _ (spelled_of_mem_flatten node here)
    · exact List.mem_append_right _ (spelled_of_mem_flattenAll rest later)

/-- An include in a branch was read from a tag. -/
theorem spelled_of_mem_flattenBranches : ∀ (branches : List (String × List Node))
    (opening : String → Token), inclusion name line ∈ flattenBranches branches →
      ⟨.inclusion name, some line⟩ ∈ spelledBranches opening branches
  | (condition, body) :: rest, opening, member => by
    rw [flattenBranches, List.mem_append] at member
    refine List.mem_cons_of_mem _ (List.mem_append.2 ?_)
    rcases member with here | later
    · exact .inl (spelled_of_mem_flattenAll body here)
    · exact .inr (spelled_of_mem_flattenBranches rest .branch later)

end

end Node

section Texts

variable {text : String} {nodes : List Node}

/-- The tree of a text without tags that include templates includes nothing. -/
theorem IncludesNothing.includeNothing (nothing : IncludesNothing text)
    (parsed : parse text = .ok nodes) : IncludeNothing (Node.flattenAll nodes) := by
  intro included line member
  have read := (ParserState.reads_start.parseFrom parsed).2
  have spelled := Node.spelled_of_mem_flattenAll nodes member
  rw [read, List.nil_append] at spelled
  obtain ⟨placed, among, same⟩ := List.mem_map.1 spelled
  refine nothing placed among included ?_
  rw [← placed.spelling_token, same]

/-- A text that is a template has no group that is not closed as often as it is opened. -/
theorem unbalanced_of_parse (parsed : parse text = .ok nodes) : unbalanced text = [] := by
  obtain ⟨built, read⟩ := ParserState.reads_start.parseFrom parsed
  have tokensRead : (Node.spelledAll nodes).map Spelling.token =
      (tokens text).map Placed.token := by
    rw [read, List.nil_append, List.map_map]
    exact List.map_congr_left fun placed _ => placed.spelling_token
  have counts : ∀ group, (groupCounts group (tokens text)).1 =
      (groupCounts group (tokens text)).2 := by
    intro group
    have closes := built.generated.closes_eq_opens group
    simp only [tokensRead, reduceCtorEq, false_and, if_false, Nat.add_zero, List.countP_map]
      at closes
    exact closes.symm
  refine List.filterMap_eq_nil_iff.2 fun group _ => ?_
  dsimp only
  rw [if_pos (counts group)]

end Texts

end Template

/-! ## Findings that are no errors -/

section Findings

/-- Findings are no errors when the first and the last of them are none. -/
theorem faultless_append_iff {first second : List Finding} :
    Faultless (first ++ second) ↔ Faultless first ∧ Faultless second :=
  List.forall_mem_append

/-- A stored text has no errors exactly when it is a template. -/
theorem faultless_sourceFindings_iff {text : String} :
    Faultless (sourceFindings text) ↔ Template.IsTemplate text := by
  cases parsed : Template.parse text with
  | ok nodes =>
    have none : sourceFindings text = [] := by
      simp [sourceFindings, parsed, Template.unbalanced_of_parse parsed]
    rw [none]
    exact ⟨fun _ => ⟨nodes, parsed⟩, fun _ _ member => absurd member List.not_mem_nil⟩
  | error error =>
    exact ⟨fun faultless => absurd faultless (sourceFindings_not_faultless parsed),
      fun tree => absurd tree (Template.not_isTemplate_of_error parsed)⟩

/-- What came up while parents were filled in is no error. -/
theorem faultless_warned (warnings : List Template.Warning) :
    Faultless (warnings.map .warned) := by
  intro finding member
  obtain ⟨warning, -, rfl⟩ := List.mem_map.1 member
  rfl

/-- What a node gives by itself is no error. -/
theorem faultless_nodeFindings (nodes : List Node) : Faultless (nodes.filterMap nodeFinding?) := by
  intro finding member
  obtain ⟨node, -, given⟩ := List.mem_filterMap.1 member
  cases node with
  | call name source line =>
    simp only [nodeFinding?] at given
    split at given <;> cases given
    rfl
  | unknown tag line =>
    cases given
    rfl
  | _ => cases given

/-- Nodes that include nothing are checked by themselves. -/
theorem checkNodes_of_includeNothing {σ : Type}
    {check : String × Nat → Attempt σ (List Finding)} {nodes : List Node}
    (nothing : Template.IncludeNothing (Node.flattenAll nodes)) :
    checkNodes check nodes = pure ((Node.flattenAll nodes).filterMap nodeFinding?) := by
  have none : inclusions nodes = [] := by
    have listed : (Node.flattenAll nodes).filterMap inclusion? = [] := by
      refine List.filterMap_eq_nil_iff.2 fun node member => ?_
      cases node with
      | inclusion name line => exact absurd member (nothing name line)
      | _ => rfl
    rw [inclusions, listed]
    rfl
  simp [checkNodes, none, checkAll]

/-- A check of blocks finds no errors. -/
theorem checkBlocks_faultless {shelf : Shelf} {name text : String} {findings : List Finding}
    {cache after : Cache}
    (ran : (shelf.checkBlocks name text).run cache = (.ok findings, after)) :
    Faultless findings := by
  unfold Shelf.checkBlocks at ran
  split at ran
  · cases ran
    exact nofun
  · split at ran
    · rw [run_bind] at ran
      split at ran
      · rename_i loaded _ _
        cases loaded with
        | none =>
          cases ran
          exact nofun
        | some parentText =>
          cases ran
          intro finding member
          obtain ⟨block, -, rfl⟩ := List.mem_map.1 member
          rfl
      · cases ran
    · cases ran
      exact nofun

end Findings

/-- With its parents filled in, a stored text that is no template is one. -/
def MemoryStore.MendedByParents (store : MemoryStore) (name : String) : Prop :=
  ∃ source template, store.stored? name = some source ∧
    store.Prepares name (.ok (some template)) ∧
    ¬ Template.IsTemplate source.text ∧ Template.IsTemplate template.text

/-- A rendering fails, or its document is a fallback. An aborted rendering does neither. -/
def FallsShort (answer : Except Failure (Option Document)) : Prop :=
  (∃ failure, answer = .error failure ∧ failure ≠ .aborted) ∨
    ∃ document, answer = .ok (some document) ∧ document.isFallback = true

section Stores

variable {store : MemoryStore} {history : History} {name : String} {source : Source}
  {template : Compiled}

/-- A prepared template has the tree of its text. -/
theorem MemoryStore.Prepares.parsed_eq (prepares : store.Prepares name (.ok (some template))) :
    template.parsed = Template.parse template.text := by
  obtain ⟨resolved, -, same⟩ := prepares
  cases resolved with
  | error failure => cases same
  | ok resolved =>
    obtain ⟨text, -, rfl⟩ := Option.map_eq_some_iff.1 (Except.ok.inj same).symm
    rfl

/-- A text that names no parent is what its name is prepared to. -/
theorem MemoryStore.Prepares.text_of_root (prepares : store.Prepares name (.ok (some template)))
    (found : store.stored? name = some source) (last : source.parent? = none) :
    template.text = source.text := by
  obtain ⟨resolved, resolves, same⟩ := prepares
  obtain rfl := resolves.functional (.root found last)
  obtain rfl := Option.some.inj (Except.ok.inj same)
  rfl

/-- Parents mend no text that names none. -/
theorem MemoryStore.not_mendedByParents (allowed : isTemplateName name = true)
    (last : store.parent? name = none) : ¬ store.MendedByParents name := by
  rintro ⟨source, template, found, prepares, broken, mended⟩
  rw [parent?_of_stored allowed found] at last
  rw [prepares.text_of_root found last] at mended
  exact broken mended

/-- The check of a loaded template that includes nothing answers, and there is no error, also in
the stored text, exactly when both texts are templates. -/
theorem checkFilledIn_answers_exactly (within : store.Within history) (limit : Nat)
    (found : store.stored? name = some source)
    (prepares : store.Prepares name (.ok (some template)))
    (nothing : Template.IncludesNothing template.text) :
    ∃ findings, Answers (Cache.Coherent history)
        (store.shelf.checkFilledIn limit name source.text template) (.ok findings) ∧
      (Faultless (sourceFindings source.text ++ findings) ↔
        Template.IsTemplate source.text ∧ Template.IsTemplate template.text) := by
  have blocks : ∃ findings, Answers (Cache.Coherent history)
      (store.shelf.checkBlocks name source.text) (.ok findings) := by
    obtain ⟨resolved, resolves, same⟩ := prepares
    cases resolved with
    | error failure => cases same
    | ok resolved => exact checkBlocks_answers within found resolves
  obtain ⟨blocks, blockAnswers⟩ := blocks
  have blocksFaultless : Faultless blocks := by
    have answered := (blockAnswers _ (Cache.coherent_ofCapacity history 0)).1
    exact checkBlocks_faultless (Prod.ext answered rfl)
  have known := prepares.parsed_eq
  unfold Shelf.checkFilledIn
  cases parsed : Template.parse template.text with
  | ok nodes =>
    rw [known, parsed]
    dsimp only
    rw [checkNodes_of_includeNothing (nothing.includeNothing parsed)]
    refine ⟨_, (answers_pure _).bind (blockAnswers.bind (answers_pure _)), ?_⟩
    have mended : Template.IsTemplate template.text := ⟨nodes, parsed⟩
    simp only [faultless_append_iff, faultless_sourceFindings_iff, faultless_warned,
      faultless_nodeFindings, blocksFaultless, mended, and_true]
  | error error =>
    have broken : ¬ Template.IsTemplate template.text := Template.not_isTemplate_of_error parsed
    rw [known, parsed]
    cases own : Template.parse source.text with
    | ok nodes =>
      refine ⟨_, (answers_pure _).bind (blockAnswers.bind (answers_pure _)), ?_⟩
      refine ⟨fun faultless => ?_, fun both => absurd both.2 broken⟩
      cases faultless (.malformedFilledIn error) (by simp)
    | error fault =>
      refine ⟨_, (answers_pure _).bind (blockAnswers.bind (answers_pure _)), ?_⟩
      refine ⟨fun faultless => ?_, fun both => absurd both.2 broken⟩
      exact absurd (faultless_append_iff.1 faultless).1 (sourceFindings_not_faultless own)

/-- A validation of a stored template that includes nothing answers with a report. The report is
invalid if the parents form a circle, and otherwise it is valid exactly when the stored text and
the text with the parents filled in are templates. -/
theorem validate_answers_exactly (within : store.Within history) (limit : Nat)
    (allowed : isTemplateName name = true) (found : store.stored? name = some source)
    (nothing : ∀ template, store.Prepares name (.ok (some template)) →
      Template.IncludesNothing template.text) :
    ∃ report : Report, Answers (Cache.Coherent history) (store.shelf.validate limit name)
        (.ok (some report)) ∧
      ((∃ failure, store.Prepares name (.error failure) ∧ report.isValid = false) ∨
        ∃ template, store.Prepares name (.ok (some template)) ∧
          (report.isValid = true ↔
            Template.IsTemplate source.text ∧ Template.IsTemplate template.text)) := by
  obtain ⟨answer, prepares, loaded⟩ := load_answers within allowed
  unfold Shelf.validate
  rw [MemoryStore.read_of_isTemplateName allowed, found]
  cases answer with
  | error failure =>
    obtain ⟨circle, rfl⟩ := prepares.circular_of_error
    have circular : Answers (Cache.Coherent history) (store.shelf.loadOrFinding name)
        (.ok (.error (.circular circle none))) :=
      loaded.bind_error.tryCatch_error (answers_pure _)
    refine ⟨_, (answers_ofExcept _).bind (circular.bind (answers_pure _)),
      .inl ⟨_, prepares, ?_⟩⟩
    simp [Report.isValid, Finding.isError, Finding.severity]
  | ok prepared =>
    obtain ⟨template, rfl⟩ := Option.isSome_iff_exists.1 (prepares.isSome_iff.2 (by simp [found]))
    have finding : Answers (Cache.Coherent history) (store.shelf.loadOrFinding name)
        (.ok (.ok (some template))) := Answers.tryCatch (loaded.bind (answers_pure _))
    obtain ⟨findings, answers, exactly⟩ :=
      checkFilledIn_answers_exactly within limit found prepares (nothing template prepares)
    refine ⟨_, (answers_ofExcept _).bind (finding.bind (answers.bind (answers_pure _))),
      .inr ⟨template, prepares, (Report.isValid_iff _).trans exactly⟩⟩

/-- A rendering of a stored template that includes nothing answers, and it falls short exactly when
the parents form a circle or the text with the parents filled in is no template. -/
theorem render_answers_exactly (within : store.Within history) (limit : Nat)
    (allowed : isTemplateName name = true) (found : store.stored? name = some source)
    (nothing : ∀ template, store.Prepares name (.ok (some template)) →
      Template.IncludesNothing template.text) (context : Context) :
    ∃ answer, Answers (Cache.Coherent history) (store.shelf.render limit name context) answer ∧
      (FallsShort answer ↔ ∀ template, store.Prepares name (.ok (some template)) →
        ¬ Template.IsTemplate template.text) := by
  obtain ⟨answer, prepares, loaded⟩ := load_answers within allowed
  cases answer with
  | error failure =>
    obtain ⟨circle, rfl⟩ := prepares.circular_of_error
    refine ⟨_, loaded.bind_error, fun _ template other => ?_, fun _ => .inl ⟨_, rfl, nofun⟩⟩
    cases prepares.functional other
  | ok prepared =>
    obtain ⟨template, rfl⟩ := Option.isSome_iff_exists.1 (prepares.isSome_iff.2 (by simp [found]))
    cases parsed : Template.parse template.text with
    | error error =>
      have fallen : Answers (Cache.Coherent history)
          (renderCompiled store.shelf.fetch limit template context) _ :=
        renderCompiled_of_error (prepares.parsed_eq.trans parsed)
      refine ⟨_, loaded.bind (fallen.map some), fun _ other same => ?_, fun _ => ?_⟩
      · cases prepares.functional same
        exact Template.not_isTemplate_of_error parsed
      · exact .inr ⟨_, rfl, rfl⟩
    | ok nodes =>
      have settle : Template.InsertionsSettle (Cache.Coherent history) (· = .aborted)
          (Template.insertInto store.shelf.fetch limit limit [name]) (Node.flattenAll nodes) :=
        fun included line member =>
          absurd member ((nothing template prepares).includeNothing parsed included line)
      have mended : ¬ ∀ other, store.Prepares name (.ok (some other)) →
          ¬ Template.IsTemplate other.text := fun broken =>
        broken template prepares ⟨nodes, parsed⟩
      rcases render_answers prepares.template_name (ne_empty_of_isTemplateName allowed)
        (prepares.parsed_eq.trans parsed) loaded settle context with
        ⟨_, rendered, document, rfl, proper⟩ | aborted
      · refine ⟨_, rendered, ?_, fun broken => absurd broken mended⟩
        rintro (⟨failure, same, -⟩ | ⟨other, same, fallen⟩)
        · cases same
        · cases same
          rw [proper] at fallen
          cases fallen
      · refine ⟨_, aborted, ?_, fun broken => absurd broken mended⟩
        rintro (⟨failure, same, proper⟩ | ⟨other, same, -⟩)
        · exact absurd (Except.error.inj same).symm proper
        · cases same

end Stores

/-- The validation of a stored template that includes nothing gives a report, whatever the engine
did before. If the report is invalid, every later rendering of the template fails or falls back,
unless its text is no template as it is stored, but is one with the parents filled in: then the
report is invalid and no rendering falls short. That takes a parent. -/
theorem invalid_iff_falls_short (store : MemoryStore) (limit capacity : Nat) (name : String)
    (stored : store.shelf.contains name = .ok true)
    (nothing : ∀ template, store.Prepares name (.ok (some template)) →
      Template.IncludesNothing template.text) (before : List EngineStep) :
    ∃ (report : Report) (after : Cache),
      (store.shelf.validate limit name).run
          (EngineStep.cacheAfter limit store (.ofCapacity capacity) before) =
        (.ok (some report), after) ∧
      (report.isValid = false → ∀ (between : List EngineStep) (context : Context),
        FallsShort ((store.shelf.render limit name context).run
            (EngineStep.cacheAfter limit store after between)).1 ↔
          ¬ store.MendedByParents name) ∧
      (store.MendedByParents name → report.isValid = false) ∧
      (store.MendedByParents name → ∃ parent, store.parent? name = some parent) := by
  obtain ⟨allowed, present⟩ := (store.contains_iff name).1 stored
  obtain ⟨source, found⟩ := Option.isSome_iff_exists.1 present
  have within := store.within_history
  obtain ⟨report, answers, exactly⟩ := validate_answers_exactly within limit allowed found nothing
  have coherent := EngineStep.cacheAfter_coherent within limit before _
    (Cache.coherent_ofCapacity store.history capacity)
  obtain ⟨answer, kept⟩ := answers _ coherent
  refine ⟨report, _, Prod.ext answer rfl, fun invalid between context => ?_, ?_, ?_⟩
  · obtain ⟨shown, rendered, short⟩ :=
      render_answers_exactly within limit allowed found nothing context
    have later := EngineStep.cacheAfter_coherent within limit between _ kept
    rw [(rendered _ later).1, short]
    constructor
    · rintro broken ⟨_, template, _, prepares, _, mended⟩
      exact broken template prepares mended
    · intro unmended template prepares mended
      refine unmended ⟨source, template, found, prepares, fun own => ?_, mended⟩
      rcases exactly with ⟨failure, fails, -⟩ | ⟨other, alike, valid⟩
      · cases fails.functional prepares
      · cases alike.functional prepares
        rw [valid.2 ⟨own, mended⟩] at invalid
        cases invalid
  · rintro ⟨_, template, again, prepares, broken, -⟩
    obtain rfl := Option.some.inj (found.symm.trans again)
    rcases exactly with ⟨failure, -, invalid⟩ | ⟨other, -, valid⟩
    · exact invalid
    · exact Bool.eq_false_iff.2 fun holds => broken (valid.1 holds).1
  · intro mended
    refine Option.ne_none_iff_exists'.1 fun last => ?_
    exact MemoryStore.not_mendedByParents allowed last mended

/-- A store with a template that leaves a choice open. -/
def openChoice : MemoryStore := ⟨[("note", ⟨Template.tagText "#if a" ++ "x", 1⟩)], 1⟩

/-- Its report is invalid, and its rendering falls back. -/
theorem openChoice_falls_short :
    openChoice.shelf.contains "note" = .ok true ∧
    (∀ template, openChoice.Prepares "note" (.ok (some template)) →
      Template.IncludesNothing template.text) ∧
    ∃ (report : Report) (after : Cache),
      (openChoice.shelf.validate 8 "note").run (.ofCapacity 4) = (.ok (some report), after) ∧
      report.isValid = false ∧
      FallsShort ((openChoice.shelf.render 8 "note" .empty).run after).1 := by
  have stored : openChoice.shelf.contains "note" = .ok true := rfl
  have found : openChoice.stored? "note" = some ⟨Template.tagText "#if a" ++ "x", 1⟩ := rfl
  have last : Source.parent? ⟨Template.tagText "#if a" ++ "x", 1⟩ = none := by decide +kernel
  have read : Template.tokens (Template.tagText "#if a" ++ "x") =
      [⟨.choice "a", 1⟩, ⟨.text "x", 1⟩] := by decide +kernel
  have nothing : ∀ template, openChoice.Prepares "note" (.ok (some template)) →
      Template.IncludesNothing template.text := by
    intro template prepares
    rw [prepares.text_of_root found last]
    simp [Template.IncludesNothing, read]
  obtain ⟨report, after, ran, short, -, parents⟩ :=
    invalid_iff_falls_short openChoice 8 4 "note" stored nothing []
  have judged : ((openChoice.shelf.validate 8 "note").run (.ofCapacity 4)).1.toOption.join.map
      Report.isValid = some false := by decide +kernel
  have invalid : report.isValid = false := by
    rw [show (openChoice.shelf.validate 8 "note").run (.ofCapacity 4) = _ from ran] at judged
    exact Option.some.inj judged
  have unmended : ¬ openChoice.MendedByParents "note" := by
    intro mended
    obtain ⟨parent, above⟩ := parents mended
    cases above
  exact ⟨stored, nothing, report, after, ran, invalid, (short invalid [] .empty).2 unmended⟩

/-- A store with a template that leaves a choice open outside of the block that its parent takes. -/
def openOutside : MemoryStore :=
  let block (body : String) := Template.tagText "block \"x\"" ++ body ++ Template.tagText "/block"
  ⟨[("base", ⟨"<" ++ block "base" ++ ">", 1⟩),
    ("child", ⟨Template.tagText "extends \"base\"" ++ Template.tagText "#if a" ++ block "mine",
      2⟩)], 2⟩

example :
    ((openOutside.shelf.validate 8 "child").run (.ofCapacity 4)).1.toOption.join.map
      Report.isValid = some false ∧
    ((openOutside.shelf.render 8 "child" .empty).run (.ofCapacity 4)).1.toOption.join.map
      (fun document => (document.text, document.isFallback)) = some ("<mine>", false) := by
  decide +kernel

end NoteTemplate
