import Mathlib.Logic.Relation
import NoteTemplate.Engine
import NoteTemplate.Proofs.CachedLoading
import NoteTemplate.Proofs.RenderingAnswer

/-!
# Aborted renderings

The rendering of a stored template settles, whatever it includes, and it is aborted only if the
template, or one that it includes directly or through others, has a node that can abort a rendering
(`render_aborts`). That is shown along the includes (`insertInto_aborts`): each of them adds one
step to the way to such a node.
-/

namespace NoteTemplate

open Template (Compiled Node)
open Template.Attempt

namespace MemoryStore

/-- The template of a name, with its parents filled in, includes another one. -/
def Includes (store : MemoryStore) (name included : String) : Prop :=
  ∃ template nodes line, store.Prepares name (.ok (some template)) ∧
    template.parsed = .ok nodes ∧ Node.inclusion included line ∈ Node.flattenAll nodes

/-- The template of a name, or one that it includes directly or through others, has a node that can
abort a rendering. -/
def CanAbort (store : MemoryStore) (name : String) : Prop :=
  ∃ included template nodes node, Relation.ReflTransGen store.Includes name included ∧
    store.Prepares included (.ok (some template)) ∧ template.parsed = .ok nodes ∧
    node ∈ Node.flattenAll nodes ∧ node.MayAbort

/-- A failure of the rendering of a name that is no abort, unless the name can abort a rendering. -/
def AbortsForCause (store : MemoryStore) (name : String) (failure : Failure) : Prop :=
  failure = .aborted → store.CanAbort name

section Causes

variable {store : MemoryStore} {name included : String}

/-- What a template leads to by its includes can abort the rendering of the template. -/
theorem CanAbort.of_reaches (aborts : store.CanAbort included)
    (reaches : Relation.ReflTransGen store.Includes name included) : store.CanAbort name := by
  obtain ⟨last, template, nodes, node, path, prepares, parsed, member, asks⟩ := aborts
  exact ⟨last, template, nodes, node, reaches.trans path, prepares, parsed, member, asks⟩

/-- The nodes of a template abort its rendering for a cause. -/
theorem Prepares.abortsForCause {template : Compiled} {nodes : List Node}
    (prepares : store.Prepares name (.ok (some template))) (parsed : template.parsed = .ok nodes) :
    Template.AbortsPermitted (store.AbortsForCause name) (Node.flattenAll nodes) :=
  fun node member asks _ => ⟨name, template, nodes, node, .refl, prepares, parsed, member, asks⟩

/-- A template that is not prepared is aborted for no cause. -/
theorem Prepares.abortsForCause_of_error {failure : Failure}
    (prepares : store.Prepares name (.error failure)) : store.AbortsForCause name failure := by
  obtain ⟨circle, rfl⟩ := prepares.circular_of_error
  exact nofun

end Causes

end MemoryStore

section Rendering

variable {store : MemoryStore} {history : History}

/-- Below any chain, a template is inserted or fails to be, and it is aborted for a cause only. -/
theorem insertInto_aborts (within : store.Within history) (limit remaining : Nat) :
    ∀ chain scope name, Settles (Cache.Coherent history) (store.AbortsForCause name)
      (Template.insertInto store.shelf.fetch limit remaining chain scope name) := by
  induction remaining with
  | zero =>
    intro chain scope name
    by_cases met : name ∈ chain
    · exact (Template.insertInto_met met).settles_error nofun
    · exact (Template.insertInto_full met).settles_error nofun
  | succ remaining ih =>
    intro chain scope name
    unfold Template.insertInto
    split
    · exact (answers_throw _).settles_error nofun
    · obtain ⟨answer, answers, given⟩ := fetch_answers within name
      cases answer with
      | error failure =>
        rcases given with ⟨-, prepares⟩ | missing
        · exact answers.bind_error.settles_error prepares.abortsForCause_of_error
        · cases missing
      | ok fetched =>
        refine answers.bind_settles (Template.insertFetched_settles ?_ scope)
        rintro template nodes rfl parsed
        rcases given with ⟨-, prepares⟩ | missing
        · refine ⟨prepares.abortsForCause parsed, fun inner line member scope => ?_⟩
          have includes : store.Includes name inner :=
            ⟨template, nodes, line, prepares, parsed, member⟩
          exact (ih (chain ++ [name]) scope inner).mono fun _ cause aborted =>
            (cause aborted).of_reaches (.single includes)
        · cases missing

/-- Rendering a template that is prepared settles, and it is aborted for a cause only. -/
theorem renderCompiled_aborts (within : store.Within history) (limit : Nat) {name : String}
    {template : Compiled} (prepares : store.Prepares name (.ok (some template)))
    (context : Context) :
    Settles (Cache.Coherent history) (store.AbortsForCause name)
      (renderCompiled store.shelf.fetch limit template context) := by
  unfold renderCompiled
  cases parsed : template.parsed with
  | error error => exact settles_pure _
  | ok nodes =>
    have insertions : Template.InsertionsSettle (Cache.Coherent history) (store.AbortsForCause name)
        (Template.insertInto store.shelf.fetch limit
          (limit + 1 - (Template.startChain template.name).length)
          (Template.startChain template.name)) (Node.flattenAll nodes) := by
      intro inner line member scope
      have includes : store.Includes name inner :=
        ⟨template, nodes, line, prepares, parsed, member⟩
      exact (insertInto_aborts within limit _ _ scope inner).mono fun _ cause aborted =>
        (cause aborted).of_reaches (.single includes)
    have tree : Settles (Cache.Coherent history) (store.AbortsForCause name)
        (Template.renderTree store.shelf.fetch limit template.name context nodes) :=
      Template.renderBody_settles _ nodes (prepares.abortsForCause parsed) insertions _
    exact tree.bind fun _ => settles_pure _

/-- Rendering by name settles, and it is aborted for a cause only. -/
theorem render_aborts (within : store.Within history) (limit : Nat) (name : String)
    (context : Context) :
    Settles (Cache.Coherent history) (store.AbortsForCause name)
      (store.shelf.render limit name context) := by
  cases allowed : isTemplateName name with
  | false =>
    obtain ⟨rejection, answers⟩ := load_refused store allowed
    exact (answers _).bind_error.settles_error nofun
  | true =>
    obtain ⟨answer, prepares, answers⟩ := load_answers within allowed
    cases answer with
    | error failure => exact answers.bind_error.settles_error prepares.abortsForCause_of_error
    | ok loaded =>
      refine answers.bind_settles ?_
      cases loaded with
      | none => exact settles_pure _
      | some template =>
        exact (renderCompiled_aborts within limit prepares context).bind fun _ => settles_pure _

/-- A rendering by name that is aborted is so for a cause. -/
theorem canAbort_of_aborted (within : store.Within history) {limit : Nat} {name : String}
    {context : Context} {cache : Cache}
    (aborted : ((store.shelf.render limit name context).run cache).1 = .error .aborted)
    (coherent : cache.Coherent history) : store.CanAbort name := by
  obtain ⟨answer, caused, answers⟩ := render_aborts within limit name context
  exact caused .aborted ((answers cache coherent).1.symm.trans aborted) rfl

end Rendering

end NoteTemplate
