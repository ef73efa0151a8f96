import NoteTemplate.Proofs.AlikeFragments
import NoteTemplate.Proofs.ExpandedTree
import NoteTemplate.Proofs.FiniteIncludes

/-!
# Including is inlining

When includes lead in no circle and no deeper than the limit, a stored template renders as its tree
does with the trees of the included templates in place of the includes, and without any store
(`render_inlines`). What is lost are the warnings about the loading of templates. A rendering can
fail all the same, since the parents of an included template may lead in a circle; when it is
aborted, so is that of the tree.
-/

namespace NoteTemplate

open Template (Attempt Compiled Fragment Node Warning)
open Template.Attempt

namespace Template

/-! ## Fragments that differ in warnings about loading -/

/-- Whether a warning is about the loading of a template: it does not exist, a parent does not, or
its text is no template. -/
def Warning.isLoading : Warning → Bool
  | .malformed .. | .missingInclusion _ | .missingParent .. => true
  | _ => false

/-- The warnings that are not about loading, in order. -/
def withoutLoading (warnings : List Warning) : List Warning := warnings.filter (!·.isLoading)

/-- Warnings about loading leave nothing. -/
theorem withoutLoading_eq_nil {warnings : List Warning}
    (loading : ∀ warning ∈ warnings, warning.isLoading = true) : withoutLoading warnings = [] := by
  rw [withoutLoading, List.filter_eq_nil_iff]
  intro warning member
  simp [loading warning member]

/-- The warnings that are left of two lists are those that are left of each. -/
theorem withoutLoading_append (first later : List Warning) :
    withoutLoading (first ++ later) = withoutLoading first ++ withoutLoading later :=
  List.filter_append first later

/-- Two fragments have one text, and the same warnings but for those about loading. -/
structure Fragment.AlikeButLoading (fragment twin : Fragment) : Prop where
  /-- The texts are the same. -/
  text : fragment.text = twin.text
  /-- The other warnings are the same. -/
  warnings : withoutLoading fragment.warnings = withoutLoading twin.warnings

/-- A fragment is alike behind warnings about loading. -/
theorem Fragment.AlikeButLoading.after {fragment twin : Fragment}
    (alike : fragment.AlikeButLoading twin) {before : List Warning}
    (loading : ∀ warning ∈ before, warning.isLoading = true) :
    (fragment.after before).AlikeButLoading twin := by
  refine ⟨alike.text, ?_⟩
  rw [Fragment.after, withoutLoading_append, withoutLoading_eq_nil loading, List.nil_append]
  exact alike.warnings

/-- To differ in warnings about loading is kept by the ways in which a rendering puts fragments
together. -/
theorem likeness_alikeButLoading :
    Likeness (fun _ => True) Fragment.AlikeButLoading where
  empty := trivial
  refl _ _ := ⟨rfl, rfl⟩
  append {first later twin twinLater} one two := by
    refine ⟨?_, ?_⟩
    · rw [Fragment.append, Fragment.append, one.text, two.text]
    · rw [Fragment.append, Fragment.append, withoutLoading_append, withoutLoading_append,
        one.warnings, two.warnings]
  condition {first twin} condition fault one := by
    refine ⟨one.text, ?_⟩
    rw [Fragment.after, Fragment.after, withoutLoading_append, withoutLoading_append, one.warnings]
  iterations {fragments twins} alike := by
    have warnings : withoutLoading (fragments.flatMap Fragment.warnings) =
        withoutLoading (twins.flatMap Fragment.warnings) := by
      induction alike with
      | nil => rfl
      | cons one _ ih =>
        rw [List.flatMap_cons, List.flatMap_cons, withoutLoading_append, withoutLoading_append,
          one.warnings, ih]
    have texts : fragments.map Fragment.text = twins.map Fragment.text := by
      clear warnings
      induction alike with
      | nil => rfl
      | cons one _ ih => rw [List.map_cons, List.map_cons, one.text, ih]
    exact ⟨congrArg (joinChunks none) texts, warnings⟩

/-- A template with other nodes in place of includes. -/
def Compiled.expand (inline : String → List Node) (template : Compiled) : Compiled :=
  { template with parsed := template.parsed.map (Node.expandAll inline) }

end Template

/-- Two documents have one text, header and body, and the same warnings but for those about
loading. -/
structure Document.AlikeButLoading (document twin : Document) : Prop where
  /-- The texts are the same. -/
  text : document.text = twin.text
  /-- The headers are the same. -/
  header : document.header = twin.header
  /-- The bodies are the same. -/
  body : document.body = twin.body
  /-- Both are shown as they stand, or none is. -/
  isFallback : document.isFallback = twin.isFallback
  /-- The other warnings are the same. -/
  warnings : Template.withoutLoading document.warnings = Template.withoutLoading twin.warnings

/-- A rendering gives a document that is like the one of a text without a store but for warnings
about loading, or there is none of either because both are aborted. -/
def AnswerButLoading (answer : Except Failure (Option Document)) (alone : Option Document) : Prop :=
  (∃ document twin : Document, answer = .ok (some document) ∧ alone = some twin ∧
    document.AlikeButLoading twin) ∨
  (answer = .error .aborted ∧ alone = none)

/-- Documents with one text are alike when what came up before is. -/
theorem Document.alikeButLoading_ofText {name twinName text : String} {isFallback : Bool}
    {warnings twin : List Warning}
    (alike : Template.withoutLoading warnings = Template.withoutLoading twin) :
    (Document.ofText name text warnings isFallback).AlikeButLoading
      (Document.ofText twinName text twin isFallback) := by
  refine ⟨rfl, rfl, rfl, rfl, ?_⟩
  rw [Document.ofText, Document.ofText, Template.withoutLoading_append,
    Template.withoutLoading_append, alike]

/-! ## What takes the place of an include -/

namespace MemoryStore

/-- What takes the place of an include, given what takes the place of those in its template: the
nodes of the template, its text if that is no template, and nothing if there is none. -/
def replacement (store : MemoryStore) (inline : String → List Node) (name : String) : List Node :=
  match store.fetched name with
  | .ok (some template) =>
    match template.parsed with
    | .ok nodes => Node.expandAll inline nodes
    | .error _ => [.text template.text]
  | _ => []

/-- The nodes for every include that a template leads to are what takes its place, with the nodes
for its own includes put in. -/
def Inlines (store : MemoryStore) (name : String) (inline : String → List Node) : Prop :=
  ∀ included, Relation.TransGen store.Includes name included →
    inline included = store.replacement inline included

/-- A failure because the parents of a template lead in a circle, of the template itself or of one
that it includes. -/
def ParentsCircle (store : MemoryStore) (name : String) (failure : Failure) : Prop :=
  ∃ included circle, Relation.ReflTransGen store.Includes name included ∧
    store.FirstReturn included circle ∧ failure = .circular circle

section Replacements

variable {store : MemoryStore} {name included : String} {history : History}

/-- A template that is fetched comes with no warnings but those about missing parents. -/
theorem isLoading_of_fetched {template : Compiled}
    (found : store.fetched name = .ok (some template)) :
    ∀ warning ∈ template.warnings, warning.isLoading = true := by
  intro warning member
  obtain ⟨resolved, resolves, same⟩ := prepares_of_fetched found
  cases resolved with
  | error failure => cases same
  | ok resolved =>
    obtain ⟨text, _, rfl⟩ := Option.map_eq_some_iff.1 (Except.ok.inj same).symm
    obtain ⟨child, parent, rfl⟩ := resolves.missingParent_of_mem warning member
    rfl

/-- What takes the place of an include depends on the includes of its template. -/
theorem replacement_congr {inline twin : String → List Node}
    (alike : ∀ inner, store.Includes included inner → inline inner = twin inner) :
    store.replacement inline included = store.replacement twin included := by
  unfold replacement
  split
  · rename_i template found
    cases parsed : template.parsed with
    | error error => rfl
    | ok nodes =>
      refine Node.expandAll_congr nodes fun inner line member => alike inner ?_
      exact ⟨template, nodes, line, prepares_of_fetched found, parsed, member⟩
  · rfl

/-- What takes the place of includes when they are followed to some depth. -/
def inlined (store : MemoryStore) : Nat → String → List Node
  | 0, _ => []
  | depth + 1, name => store.replacement (store.inlined depth) name

/-- Includes that lead not as deep are followed to their ends. -/
theorem inlined_succ {limit : Nat} (finite : store.FiniteIncludes name limit) (depth : Nat) :
    ∀ (path : List String) (included : String), limit ≤ path.length + depth →
      (name :: path ++ [included]).IsChain store.Includes →
      store.inlined (depth + 1) included = store.inlined depth included := by
  induction depth with
  | zero =>
    intro path included enough linked
    have room := finite.room linked
    omega
  | succ depth ih =>
    intro path included enough linked
    rw [inlined, inlined]
    refine replacement_congr fun inner includes => ?_
    apply ih (path ++ [included]) inner
    · rw [List.length_append, List.length_singleton]
      omega
    · exact isChain_behind linked includes

/-- When includes lead in no circle and not deeper than a limit, following them to the limit leaves
none. -/
theorem inlines_inlined {limit : Nat} (finite : store.FiniteIncludes name limit) :
    store.Inlines name (store.inlined limit) := by
  intro included reached
  obtain ⟨path, linked⟩ := exists_isChain_of_transGen reached
  exact (inlined_succ finite limit path included (Nat.le_add_left limit path.length) linked).symm

end Replacements

end MemoryStore

/-! ## Rendering without a store -/

section Rendering

variable {store : MemoryStore} {name : String} {history : History} {limit : Nat}
  {inline : String → List Node} {τ : Type} {insert : Scope → String → Attempt τ Fragment}

/-- A rendering with a cache answers like one without a store but for warnings about loading, or
both are aborted, unless the one with a cache fails because parents lead in a circle. -/
abbrev MemoryStore.RendersLike (store : MemoryStore) (history : History) (name : String) :
    Template.RenderingRelation Cache τ :=
  Template.AnswerAlike (Cache.Coherent history) (fun _ => True) (· = .aborted)
    (store.ParentsCircle name) Fragment.AlikeButLoading

/-- Nodes render like what they become when the insertions of their includes do. -/
theorem renderBody_like_expanded {insertStored : Scope → String → Loading Fragment}
    {nodes : List Node}
    (insertions : Template.InsertionsRelated (store.RendersLike history name) [] insertStored
      (Template.insertInline insert inline) (Node.flattenAll nodes))
    {scope other : Scope} (agree : scope.AgreeOff [] other) :
    store.RendersLike history name (Template.renderBody insertStored scope nodes)
      (Template.renderBody insert other (Node.expandAll inline nodes)) := by
  rw [Template.renderBody_expandAll]
  have leaves : Template.RenderKnown (fun _ => True) (· = .aborted) (Node.flattenAll nodes) :=
    ⟨fun _ _ _ _ _ => trivial, fun _ _ _ => rfl⟩
  exact Template.renderBody_assembled Template.likeness_alikeButLoading.assembles nodes
    (Template.untouched_nil _) leaves insertions scope other agree

/-- A fetched template is inserted like what takes its place is rendered, when that holds of its
includes. -/
theorem insertFetched_like_replacement {insertStored : Scope → String → Loading Fragment}
    {included : String} {fetched : Option Compiled} (found : store.fetched included = .ok fetched)
    (below : ∀ template nodes, fetched = some template → template.parsed = .ok nodes →
      Template.InsertionsRelated (store.RendersLike history name) [] insertStored
        (Template.insertInline insert inline) (Node.flattenAll nodes))
    {scope other : Scope} (agree : scope.AgreeOff [] other) :
    store.RendersLike history name (Template.insertFetched insertStored scope included fetched)
      (Template.renderBody insert other (store.replacement inline included)) := by
  simp only [MemoryStore.replacement, found]
  cases fetched with
  | none => exact Template.answerAlike_pure ⟨rfl, rfl⟩
  | some template =>
    have loading := MemoryStore.isLoading_of_fetched found
    cases parsed : template.parsed with
    | error error =>
      simp only [Template.insertFetched, parsed, Template.renderBody_singleton,
        Template.renderNode]
      refine Template.answerAlike_pure ⟨rfl, ?_⟩
      rw [Template.withoutLoading_append, Template.withoutLoading_eq_nil loading]
      rfl
    | ok nodes =>
      simp only [Template.insertFetched, parsed]
      exact (renderBody_like_expanded (below template nodes rfl parsed) agree).mapFirst
        fun _ _ alike => alike.after loading

/-- Below a chain of includes that starts with a name, a template is inserted like the nodes that
take its place are rendered. -/
theorem insertInto_like_inline (within : store.Within history)
    (finite : store.FiniteIncludes name limit) (inlines : store.Inlines name inline)
    (remaining : Nat) :
    ∀ (path : List String) (scope other : Scope) (included : String),
      path.length + remaining = limit → (name :: path ++ [included]).IsChain store.Includes →
      scope.AgreeOff [] other →
      store.RendersLike history name
        (Template.insertInto store.shelf.fetch limit remaining (name :: path) scope included)
        (Template.insertInline insert inline other included) := by
  -- The room is the length by which the path falls short of the limit, so it is never used up.
  induction remaining with
  | zero =>
    intro path scope other included full linked
    have room := finite.room linked
    omega
  | succ remaining ih =>
    intro path scope other included room linked agree
    have reached := transGen_of_isChain linked
    have answers := store.fetched_answers within included
    rw [Template.insertInto, if_neg (finite.new linked), Template.insertInline,
      inlines included reached]
    cases found : store.fetched included with
    | error failure =>
      rw [found] at answers
      obtain ⟨circle, returns, isCircle⟩ := MemoryStore.firstReturn_of_fetched found
      have fits : store.ParentsCircle name failure :=
        ⟨included, circle, reached.to_reflTransGen, returns, isCircle⟩
      simp only [MemoryStore.replacement, found]
      exact ⟨_, .ok .empty, answers.bind_error, answers_pure _, .inr ⟨failure, fits, rfl⟩⟩
    | ok fetched =>
      rw [found] at answers
      refine .behind answers (insertFetched_like_replacement found ?_ agree)
      rintro template nodes rfl parsed inner line member scope other agree
      have includes : store.Includes included inner :=
        ⟨template, nodes, line, MemoryStore.prepares_of_fetched found, parsed, member⟩
      apply ih (path ++ [included]) scope other inner ?_ ?_ agree
      · rw [List.length_append, List.length_singleton]
        omega
      · exact isChain_behind linked includes

/-- The document of a template where no templates are stored is what its rendering answers. -/
theorem renderAlone_eq {template : Compiled} {context : Context} {document : Document}
    (answers : Answers (fun _ => True)
      (renderCompiled Template.fetchNothing limit template context) (.ok document)) :
    renderAlone limit template context = some document := by
  rw [renderAlone, (answers () trivial).1]

/-- There is no document of a template whose rendering is aborted. -/
theorem renderAlone_eq_none {template : Compiled} {context : Context}
    (answers : Answers (fun _ => True)
      (renderCompiled Template.fetchNothing limit template context) (.error .aborted)) :
    renderAlone limit template context = none := by
  rw [renderAlone, (answers () trivial).1]

/-- The rendering of a stored template answers like its tree does when includes are replaced, or
fails because parents lead in a circle. -/
theorem render_answers_inlined (within : store.Within history)
    (stored : store.shelf.contains name = .ok true) (finite : store.FiniteIncludes name limit)
    (inlines : store.Inlines name inline) (context : Context) :
    ∃ answer, Answers (Cache.Coherent history) (store.shelf.render limit name context) answer ∧
      ((∃ template, store.fetched name = .ok (some template) ∧
        AnswerButLoading answer (renderAlone limit (template.expand inline) context)) ∨
      ∃ failure, store.ParentsCircle name failure ∧ answer = .error failure) := by
  obtain ⟨allowed, present⟩ := (store.contains_iff name).1 stored
  have loaded : Answers (Cache.Coherent history) (store.shelf.load name) (store.fetched name) := by
    have answers := store.fetched_answers within name
    rwa [Shelf.fetch, if_pos allowed] at answers
  cases found : store.fetched name with
  | error failure =>
    rw [found] at loaded
    obtain ⟨circle, returns, isCircle⟩ := MemoryStore.firstReturn_of_fetched found
    exact ⟨_, loaded.bind_error, .inr ⟨failure, ⟨name, circle, .refl, returns, isCircle⟩, rfl⟩⟩
  | ok fetched =>
    rw [found] at loaded
    cases fetched with
    | none =>
      obtain ⟨answer, prepares, answers⟩ := load_answers within allowed
      have coherent := Cache.coherent_ofCapacity history 0
      obtain rfl := (loaded _ coherent).1.symm.trans (answers _ coherent).1
      cases prepares.isSome_iff.2 present
    | some template =>
      have named := (MemoryStore.prepares_of_fetched found).template_name
      cases parsed : template.parsed with
      | error error =>
        -- Both show the text of the template as it stands.
        have expanded : (template.expand inline).parsed = .error error := by
          rw [Compiled.expand, parsed]
          rfl
        have alone : renderAlone limit (template.expand inline) context = _ :=
          renderAlone_eq (renderCompiled_of_error expanded)
        have shown : Answers (Cache.Coherent history)
            (renderCompiled store.shelf.fetch limit template context) _ :=
          renderCompiled_of_error parsed
        refine ⟨_, loaded.bind (shown.map some), .inl ⟨template, rfl, ?_⟩⟩
        exact .inl ⟨_, _, rfl, alone, Document.alikeButLoading_ofText rfl⟩
      | ok nodes =>
        have proper := ne_empty_of_isTemplateName allowed
        have expanded : (template.expand inline).parsed = .ok (Node.expandAll inline nodes) := by
          rw [Compiled.expand, parsed]
          rfl
        have body : store.RendersLike history name
            (Template.renderBody (Template.insertInto store.shelf.fetch limit limit [name])
              ⟨context, []⟩ nodes)
            (Template.renderTree Template.fetchNothing limit (template.expand inline).name context
              (Node.expandAll inline nodes)) := by
          refine renderBody_like_expanded ?_ (.refl _)
          intro inner line member scope other agree
          have includes : store.Includes name inner :=
            ⟨template, nodes, line, MemoryStore.prepares_of_fetched found, parsed, member⟩
          exact insertInto_like_inline within finite inlines limit [] scope other inner
            (Nat.zero_add limit) (List.isChain_pair.2 includes) agree
        obtain ⟨answer, twinAnswer, answers, twinAnswers, outcome⟩ := body
        have twin := renderCompiled_of_tree expanded twinAnswers
        refine ⟨_, render_of_body named proper parsed loaded answers, ?_⟩
        rcases outcome with same | ⟨failure, fits, rfl⟩
        · refine .inl ⟨template, rfl, ?_⟩
          cases same with
          | result alike =>
            refine .inl ⟨_, _, rfl, renderAlone_eq twin, ?_⟩
            rw [alike.text]
            apply Document.alikeButLoading_ofText
            rw [Template.withoutLoading_append, Template.withoutLoading_append, alike.warnings]
            rfl
          | failure aborted =>
            subst aborted
            exact .inr ⟨rfl, renderAlone_eq_none twin⟩
        · exact .inr ⟨failure, fits, rfl⟩

end Rendering

/-- When the includes of a stored template lead in no circle and not deeper than the limit, there
are nodes that take the place of every include, down to the last one. Whatever an engine did on the
store before, the rendering of the template gives the document that its tree gives with these nodes
in place of the includes and without a store, but for warnings about loading, or both are aborted,
unless the parents of the template or of one that it includes lead in a circle, and then it may fail
by that circle. -/
theorem render_inlines (store : MemoryStore) (limit capacity : Nat) {name : String}
    (stored : store.shelf.contains name = .ok true) (finite : store.FiniteIncludes name limit) :
    (∃ inline, store.Inlines name inline) ∧
    ∀ inline, store.Inlines name inline → ∀ (context : Context) (before : List EngineStep),
      let cache := EngineStep.cacheAfter limit store (.ofCapacity capacity) before
      let answer := ((store.shelf.render limit name context).run cache).1
      (∃ template, store.fetched name = .ok (some template) ∧
        AnswerButLoading answer (renderAlone limit (template.expand inline) context)) ∨
      ∃ failure, store.ParentsCircle name failure ∧ answer = .error failure := by
  refine ⟨⟨_, MemoryStore.inlines_inlined finite⟩, fun inline inlines context before => ?_⟩
  intro cache answer
  have within := store.within_history
  have coherent : cache.Coherent store.history :=
    EngineStep.cacheAfter_coherent within limit before _
      (Cache.coherent_ofCapacity store.history capacity)
  obtain ⟨known, answers, outcome⟩ := render_answers_inlined within stored finite inlines context
  rwa [show answer = known from (answers cache coherent).1]

/-- A store with a template that includes another one for every guest, which includes a text that
is no template. The first includes a template that does not exist as well. -/
def nestedParts : MemoryStore :=
  ⟨[("guest", ⟨Template.tagText "@index" ++ Template.tagText "include \"mark\"", 1⟩),
    ("list", ⟨Template.tagText "#each guests" ++ Template.tagText "include \"guest\"" ++
      Template.tagText "/each" ++ Template.tagText "include \"gone\"", 2⟩),
    ("mark", ⟨Template.tagText "#if late", 3⟩)], 3⟩

/-- The list of guests renders as its tree does with the parts in place. -/
theorem nestedParts_render :
    let inline := nestedParts.inlined 2
    let guests : Context := Context.empty.insert "guests" (.list [.string "one", .string "two"])
    let cache := EngineStep.cacheAfter 2 nestedParts (.ofCapacity 4) [.load "guest"]
    let answer := ((nestedParts.shelf.render 2 "list" guests).run cache).1
    nestedParts.shelf.contains "list" = .ok true ∧ nestedParts.FiniteIncludes "list" 2 ∧
    nestedParts.Inlines "list" inline ∧
    ∃ template document twin, nestedParts.fetched "list" = .ok (some template) ∧
      answer = .ok (some document) ∧
      renderAlone 2 (template.expand inline) guests = some twin ∧
      document.AlikeButLoading twin := by
  intro inline guests cache answer
  have stored : nestedParts.shelf.contains "list" = .ok true := rfl
  have finite : nestedParts.FiniteIncludes "list" 2 :=
    MemoryStore.finiteIncludes_of_rank
      (fun name => if name = "list" then 2 else if name = "guest" then 1 else 0)
      (by decide) (by decide +kernel) (by decide)
  have inlines := MemoryStore.inlines_inlined finite
  refine ⟨stored, finite, inlines, ?_⟩
  have succeeds : answer.isOk = true := by decide +kernel
  rcases (render_inlines nestedParts 2 4 stored finite).2 inline inlines guests [.load "guest"] with
    ⟨template, found, ⟨document, twin, shown, alone, alike⟩ | ⟨aborted, -⟩⟩ | ⟨failure, -, failed⟩
  · exact ⟨template, document, twin, found, shown, alone, alike⟩
  · rw [show answer = .error .aborted from aborted] at succeeds
    cases succeeds
  · rw [show answer = .error failure from failed] at succeeds
    cases succeeds

/-- A store with a template that includes one which extends itself. -/
def ringedPart : MemoryStore :=
  ⟨[("note", ⟨Template.tagText "include \"part\"", 1⟩),
    ("part", ⟨Template.tagText "extends \"part\"" ++ "tail", 2⟩)], 2⟩

/-- The includes of the template come to an end, and it renders to no document, whatever nodes are
taken for the part. -/
theorem ringedPart_render :
    ringedPart.shelf.contains "note" = .ok true ∧ ringedPart.FiniteIncludes "note" 8 ∧
    ¬ ∃ twin document : Document,
      ((ringedPart.shelf.render 8 "note" .empty).run (.ofCapacity 4)).1 = .ok (some document) ∧
      document.AlikeButLoading twin := by
  refine ⟨rfl, MemoryStore.finiteIncludes_of_rank (fun name => if name = "note" then 1 else 0)
    (by decide) (by decide +kernel) (by decide), ?_⟩
  rintro ⟨_, document, answer, -⟩
  have fails : ((ringedPart.shelf.render 8 "note" .empty).run (.ofCapacity 4)).1.isOk = false := by
    decide +kernel
  rw [answer] at fails
  cases fails

end NoteTemplate
