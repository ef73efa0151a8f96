import Mathlib.Data.List.Chain
import NoteTemplate.Proofs.ParentCircles
import NoteTemplate.Proofs.Session
import NoteTemplate.Proofs.WatchedIncludes

/-!
# Chains of includes

While a stored template is rendered, the templates that are being included form a chain of
different names from the template itself, each of which includes the next, and the chain has at
most one name more than the limit (`render_includes`). A rendering fails in four ways only: an
include leads back into the chain, the parents of a template return, the chain is full, or a node
aborts the rendering.
-/

namespace NoteTemplate

open Template (Node)
open Template.Attempt

namespace MemoryStore

/-- The template of a name extends another one. -/
def HasParent (store : MemoryStore) (name parent : String) : Prop :=
  store.parent? name = some parent

/-- A chain of includes that starts with a name and repeats none. -/
structure IncludeChain (store : MemoryStore) (name : String) (chain : List String) : Prop where
  /-- The chain starts with the name. -/
  starts : chain.head? = some name
  /-- All names are different. -/
  distinct : chain.Nodup
  /-- Each name includes the next. -/
  linked : chain.IsChain store.Includes

/-- A chain that the rendering of a name can be in. -/
structure BoundedChain (store : MemoryStore) (name : String) (limit : Nat)
    (chain : List String) : Prop extends store.IncludeChain name chain where
  /-- The chain is at most one name longer than the limit. -/
  bounded : chain.length ≤ limit + 1

/-- What a failure of the rendering of a name tells about the store and about the chains that
were active, the latest one first. -/
inductive Explains (store : MemoryStore) (name : String) (limit : Nat) :
    List (List String) → Failure → Prop where
  /-- The last template of the active chain includes one of the chain, and that ends the report. -/
  | includes {before : List (List String)} {chain : List String} {again : String}
      (opened : store.IncludeChain name chain) (met : again ∈ chain)
      (linked : (chain ++ [again]).IsChain store.Includes) :
      Explains store name limit (chain :: before) (.circular (chain ++ [again]))
  /-- A template was to be loaded whose parents return, and the report ends with the return. -/
  | parents {chains : List (List String)} {path : List String} {again : String}
      (distinct : path.Nodup) (met : again ∈ path)
      (linked : (path ++ [again]).IsChain store.HasParent) :
      Explains store name limit chains (.circular (path ++ [again]))
  /-- The active chain is full, and its last template includes one that is new. -/
  | tooDeep {before : List (List String)} {chain : List String} {refused : String}
      (opened : store.IncludeChain name chain) (full : chain.length = limit + 1)
      (new : refused ∉ chain) (linked : (chain ++ [refused]).IsChain store.Includes) :
      Explains store name limit (chain :: before) (.tooDeep refused limit)
  /-- The template, or one that it includes, holds a date pattern by which no moment can be written,
  and that ended the run. -/
  | aborted {chains : List (List String)} (cause : store.CanAbort name) :
      Explains store name limit chains .aborted

section Chains

variable {store : MemoryStore} {name : String} {limit : Nat} {chain : List String}

/-- A template that is included for the first time continues a chain. -/
theorem IncludeChain.next (opened : store.IncludeChain name chain) {included : String}
    (new : included ∉ chain) (linked : (chain ++ [included]).IsChain store.Includes) :
    store.IncludeChain name (chain ++ [included]) := by
  refine ⟨?_, nodup_behind opened.distinct new, linked⟩
  rw [List.head?_append, opened.starts, Option.some_or]

/-- A template that the last one of a chain includes is reached from the first. -/
theorem IncludeChain.reaches (opened : store.IncludeChain name chain) {included : String}
    (linked : (chain ++ [included]).IsChain store.Includes) :
    Relation.ReflTransGen store.Includes name included := by
  obtain ⟨rest, rfl⟩ := List.head?_eq_some_iff.1 opened.starts
  exact List.relationReflTransGen_of_exists_isChain_cons _ linked (by simp)

/-- Parents up to the first return explain a failure of any rendering that loads them. -/
theorem FirstReturn.explains {loaded : String} {circle : List String}
    (returns : store.FirstReturn loaded circle) (chains : List (List String)) :
    store.Explains name limit chains (.circular circle) := by
  have linked : circle.IsChain store.HasParent := by
    refine List.isChain_iff_getElem.2 fun position inside => ?_
    exact returns.parent?_eq (List.getElem?_eq_getElem (Nat.lt_of_succ_lt inside))
      (List.getElem?_eq_getElem inside)
  obtain ⟨path, again, rfl, distinct, met, _⟩ := returns
  exact .parents distinct met linked

end Chains

end MemoryStore

section Rendering

variable {store : MemoryStore} {history : History}

/-- Below a chain that has room for some more templates, the insertion of a template that the
last one includes is tracked. -/
theorem insertWatched_tracks (within : store.Within history) {name : String}
    (limit remaining : Nat) :
    ∀ (chain : List String) (scope other : Scope) (included : String),
      chain.length + remaining = limit + 1 → store.IncludeChain name chain →
      (chain ++ [included]).IsChain store.Includes → scope.AgreeOff [] other →
      Tracks (Cache.Coherent history) (store.BoundedChain name limit) (store.Explains name limit)
        (Template.insertWatched store.shelf.fetch limit chain scope included)
        (Template.insertInto store.shelf.fetch limit remaining chain other included) := by
  -- The room is what the chain falls short of its greatest length, so it is used up exactly when
  -- the depth is checked to be too great.
  induction remaining with
  | zero =>
    intro chain scope other included room opened linked _
    have bounded : store.BoundedChain name limit chain := ⟨opened, by omega⟩
    unfold Template.insertWatched Template.insertInto
    by_cases met : included ∈ chain
    · simp only [if_pos met]
      exact tracks_throw bounded fun _ => .includes opened met linked
    · have full : limit < chain.length := by omega
      simp only [if_neg met, if_pos full]
      exact tracks_throw bounded fun _ => .tooDeep opened (by omega) met linked
  | succ remaining ih =>
    intro chain scope other included room opened linked agree
    have bounded : store.BoundedChain name limit chain := ⟨opened, by omega⟩
    unfold Template.insertWatched Template.insertInto
    by_cases met : included ∈ chain
    · simp only [if_pos met]
      exact tracks_throw bounded fun _ => .includes opened met linked
    · have notFull : ¬ limit < chain.length := by omega
      simp only [if_neg met, if_neg notFull]
      obtain ⟨answer, answers, given⟩ := fetch_answers within included
      refine Tracks.watch (tracks_unwatched_bind answers ?_ fun fetched same => ?_) bounded
      · rintro failure rfl chains
        rcases given with ⟨allowed, prepares⟩ | missing
        · obtain ⟨circle, rfl, returns⟩ := prepares.firstReturn allowed
          exact returns.explains chains
        · cases missing
      · have longer := opened.next met linked
        have body : Tracks (Cache.Coherent history) (store.BoundedChain name limit)
            (store.Explains name limit)
            (Template.insertFetched (Template.insertWatched store.shelf.fetch limit
              (chain ++ [included])) scope included fetched)
            (Template.insertFetched (Template.insertInto store.shelf.fetch limit remaining
              (chain ++ [included])) other included fetched) := by
          refine Template.insertFetched_related composes_tracks ?_ agree
          rintro template nodes rfl parsed
          subst same
          have prepares : store.Prepares included (.ok (some template)) := by
            rcases given with ⟨_, prepares⟩ | missing
            · exact prepares
            · cases missing
          have aborts : Template.AbortsPermitted
              (fun failure => ∀ chains, store.Explains name limit chains failure)
              (Node.flattenAll nodes) := fun node member asks _ =>
            .aborted ((prepares.abortsForCause parsed node member asks rfl).of_reaches
              (opened.reaches linked))
          refine ⟨Template.untouched_nil _, aborts, fun inner line member scope other agree => ?_⟩
          apply ih _ scope other inner ?_ longer ?_ agree
          · rw [List.length_append, List.length_singleton]
            omega
          · rw [List.append_assoc, List.singleton_append, List.isChain_append_cons_cons]
            exact ⟨linked, ⟨template, nodes, line, prepares, parsed, member⟩,
              List.isChain_singleton _⟩
        split
        · refine body.watch ⟨longer, ?_⟩
          rw [List.length_append, List.length_singleton]
          omega
        · exact body

/-- The rendering of an allowed name is tracked. -/
theorem renderWatched_tracks (within : store.Within history) (limit : Nat) {name : String}
    (allowed : isTemplateName name = true) (context : Context) :
    Tracks (Cache.Coherent history) (store.BoundedChain name limit) (store.Explains name limit)
      (store.shelf.renderWatched limit name context)
      (store.shelf.render limit name context) := by
  have result {α : Type} (value : α) : Tracks (Cache.Coherent history)
      (store.BoundedChain name limit) (store.Explains name limit) (pure value) (pure value) :=
    composes_tracks.result value
  obtain ⟨answer, prepares, answers⟩ := load_answers within allowed
  refine tracks_unwatched_bind answers ?_ fun loaded same => ?_
  · intro failure same chains
    obtain ⟨circle, rfl, returns⟩ := (same ▸ prepares).firstReturn allowed
    exact returns.explains chains
  · subst same
    cases loaded with
    | none => exact result none
    | some template =>
      refine composes_tracks.sequence ?_ fun document => result (some document)
      unfold Template.renderCompiledWatched renderCompiled
      cases parsed : template.parsed with
      | error error => exact result _
      | ok nodes =>
        have proper := ne_empty_of_isTemplateName allowed
        have chain : Template.startChain template.name = [name] := by
          rw [prepares.template_name, Template.startChain, if_neg proper]
        have opened : store.IncludeChain name [name] :=
          ⟨rfl, by simp, List.isChain_singleton name⟩
        have bounded : store.BoundedChain name limit [name] := ⟨opened, by simp⟩
        have aborts : Template.AbortsPermitted
            (fun failure => ∀ chains, store.Explains name limit chains failure)
            (Node.flattenAll nodes) := fun node member asks _ =>
          .aborted (prepares.abortsForCause parsed node member asks rfl)
        have body := Template.renderBody_related composes_tracks nodes (Template.untouched_nil _)
          aborts (fun inner line member scope other agree =>
            insertWatched_tracks within limit limit [name] scope other inner
              (Nat.add_comm 1 limit) opened
              (List.isChain_pair.2 ⟨template, nodes, line, prepares, parsed, member⟩) agree)
          ⟨context, []⟩ ⟨context, []⟩ (.refl _)
        simp only [Template.renderTree, chain]
        exact (composes_tracks.sequence body fun _ => result _).watch bounded

end Rendering

/-- Whatever an engine did on a store before, the rendering of a stored template runs in chains
of includes that repeat no name and are at most one name longer than the limit; the watched
rendering shows them and answers the same. Every load in it ends, whatever the parents are, and a
failure tells the truth about the store and about the chain that was active. -/
theorem render_includes (store : MemoryStore) (limit capacity : Nat) {name : String}
    (stored : store.shelf.contains name = .ok true) (context : Context)
    (before : List EngineStep) :
    let cache := EngineStep.cacheAfter limit store (.ofCapacity capacity) before
    ∃ answer watched,
      (store.shelf.renderWatched limit name context).run ⟨cache, []⟩ = (answer, watched) ∧
      (store.shelf.render limit name context).run cache = (answer, watched.state) ∧
      (∀ chain ∈ watched.chains, store.BoundedChain name limit chain) ∧
      (∀ failure, answer = .error failure → store.Explains name limit watched.chains failure) ∧
      ∀ loaded, isTemplateName loaded = true → ∃ given, store.Prepares loaded given := by
  obtain ⟨allowed, -⟩ := (store.contains_iff name).1 stored
  have within := store.within_history
  have coherent := EngineStep.cacheAfter_coherent within limit before _
    (Cache.coherent_ofCapacity store.history capacity)
  obtain ⟨answer, watched, ran, original, chains, -, explained⟩ :=
    renderWatched_tracks within limit allowed context ⟨_, []⟩ ⟨coherent, by simp⟩
  refine ⟨answer, watched, ran, original, chains, explained, fun loaded loadedAllowed => ?_⟩
  obtain ⟨given, prepares, -⟩ := load_answers within loadedAllowed
  exact ⟨given, prepares⟩

/-- A store with a template that includes another for every guest, which includes it again. -/
def includeRing : MemoryStore :=
  ⟨[("guest", ⟨Template.tagText "include \"list\"", 1⟩),
    ("list", ⟨Template.tagText "#each guests" ++ Template.tagText "include \"guest\"" ++
      Template.tagText "/each", 2⟩)], 2⟩

/-- How the rendering of a template runs that is included by what it includes. -/
theorem includeRing_render :
    includeRing.shelf.contains "list" = .ok true ∧
    let cache := EngineStep.cacheAfter 8 includeRing (.ofCapacity 4) [.load "guest"]
    let guests : Context := Context.empty.insert "guests" (.list [.string "one"])
    ∃ answer watched,
      (includeRing.shelf.renderWatched 8 "list" guests).run ⟨cache, []⟩ = (answer, watched) ∧
      (includeRing.shelf.render 8 "list" guests).run cache = (answer, watched.state) ∧
      (∀ chain ∈ watched.chains, includeRing.BoundedChain "list" 8 chain) ∧
      (∀ failure, answer = .error failure →
        includeRing.Explains "list" 8 watched.chains failure) ∧
      ∀ loaded, isTemplateName loaded = true → ∃ given, includeRing.Prepares loaded given := by
  have stored : includeRing.shelf.contains "list" = .ok true := rfl
  exact ⟨stored, render_includes includeRing 8 4 stored _ [.load "guest"]⟩

end NoteTemplate
