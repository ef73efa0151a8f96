import Mathlib.Data.List.Chain
import Mathlib.Logic.Relation
import NoteTemplate.Proofs.AbortedRendering
import NoteTemplate.Proofs.ParentCircles
import NoteTemplate.Proofs.ValidationAnswer

/-!
# Includes that come to an end

The includes of a template come to an end within a limit when they lead in no circle and no path of
them is longer (`MemoryStore.FiniteIncludes`). This holds as soon as the stored templates can be
ranked so that each includes templates of lower ranks only (`finiteIncludes_of_rank`), which can be
computed.
-/

namespace NoteTemplate

open Template (Compiled)
open Template.Attempt

/-- The last name of a chain is reached from the first by at least one step. -/
theorem transGen_of_isChain {related : String → String → Prop} {last : String}
    {path : List String} :
    ∀ {first : String}, (first :: path ++ [last]).IsChain related →
      Relation.TransGen related first last := by
  induction path with
  | nil =>
    intro first linked
    exact .single (List.isChain_pair.1 linked)
  | cons next path ih =>
    intro first linked
    obtain ⟨step, rest⟩ := List.isChain_cons_cons.1 linked
    exact .head step (ih rest)

/-- What is reached by at least one step is the last name of a chain. -/
theorem exists_isChain_of_transGen {related : String → String → Prop} {first last : String}
    (reached : Relation.TransGen related first last) :
    ∃ path, (first :: path ++ [last]).IsChain related := by
  induction reached using Relation.TransGen.head_induction_on with
  | single step => exact ⟨[], List.isChain_pair.2 step⟩
  | @head first next step _ ih =>
    obtain ⟨path, linked⟩ := ih
    exact ⟨next :: path, List.isChain_cons_cons.2 ⟨step, linked⟩⟩

/-- A chain is continued by what its last name is related to. -/
theorem isChain_behind {related : String → String → Prop} {first middle last : String}
    {path : List String} (linked : (first :: path ++ [middle]).IsChain related)
    (step : related middle last) : (first :: (path ++ [middle]) ++ [last]).IsChain related := by
  rw [← List.cons_append, List.append_assoc, List.singleton_append, List.isChain_append_cons_cons]
  exact ⟨linked, step, List.isChain_singleton last⟩

namespace MemoryStore

/-- The template that an engine without a memory fetches for an include. -/
def fetched (store : MemoryStore) (name : String) : Except Failure (Option Compiled) :=
  ((store.shelf.fetch name).run (.ofCapacity 0)).1

/-- The names that the template of a name includes. -/
def includedNames (store : MemoryStore) (name : String) : List String :=
  match store.fetched name with
  | .ok (some template) =>
    match template.parsed with
    | .ok nodes => (inclusions nodes).map Prod.fst
    | .error _ => []
  | _ => []

/-- The includes of a template lead in no circle, and not deeper than a limit. -/
structure FiniteIncludes (store : MemoryStore) (name : String) (limit : Nat) : Prop where
  /-- No template that is included includes itself, directly or through others. -/
  acyclic : ∀ included, Relation.ReflTransGen store.Includes name included →
    ¬ Relation.TransGen store.Includes included included
  /-- No path of includes is longer than the limit. -/
  fits : ∀ path : List String, (name :: path).IsChain store.Includes → path.length ≤ limit

section Fetching

variable {store : MemoryStore} {name : String} {history : History}

/-- An include is fetched alike whatever the cache remembers. -/
theorem fetched_answers (within : store.Within history) (name : String) :
    Answers (Cache.Coherent history) (store.shelf.fetch name) (store.fetched name) := by
  obtain ⟨answer, answers, -⟩ := fetch_answers within name
  have same : store.fetched name = answer := (answers _ (Cache.coherent_ofCapacity history 0)).1
  rw [same]
  exact answers

/-- What is fetched is what the name prepares to. -/
theorem prepares_of_fetched {template : Compiled}
    (found : store.fetched name = .ok (some template)) :
    store.Prepares name (.ok (some template)) := by
  have answers := fetched_answers store.within_history name
  rw [found] at answers
  exact prepares_of_fetch store.within_history answers

/-- An include is not fetched only if the parents of the template lead in a circle. -/
theorem firstReturn_of_fetched {failure : Failure} (failed : store.fetched name = .error failure) :
    ∃ circle, store.FirstReturn name circle ∧ failure = .circular circle := by
  obtain ⟨answer, answers, given⟩ := fetch_answers store.within_history name
  have same : store.fetched name = answer :=
    (answers _ (Cache.coherent_ofCapacity store.history 0)).1
  obtain rfl := failed.symm.trans same
  rcases given with ⟨allowed, prepares⟩ | missing
  · obtain ⟨circle, isCircle, returns⟩ := prepares.firstReturn allowed
    exact ⟨circle, returns, isCircle⟩
  · cases missing

/-- If all stored templates have allowed names, what a template includes is among the names that it
includes, and the template is stored. -/
theorem mem_includedNames (proper : ∀ key ∈ store.templates.names, isTemplateName key = true)
    {included : String} (includes : store.Includes name included) :
    name ∈ store.templates.names ∧ included ∈ store.includedNames name := by
  obtain ⟨template, nodes, line, prepares, parsed, member⟩ := includes
  have stored : name ∈ store.templates.names :=
    Fields.mem_names_of_find? (prepares.isSome_iff.1 rfl)
  refine ⟨stored, ?_⟩
  have found : store.fetched name = .ok (some template) := by
    have answers := fetched_answers store.within_history name
    obtain ⟨answer, loads, loaded⟩ := load_answers store.within_history (proper name stored)
    rw [Shelf.fetch, if_pos (proper name stored)] at answers
    have coherent := Cache.coherent_ofCapacity store.history 0
    obtain rfl := loads.functional prepares
    exact (answers _ coherent).1.symm.trans (loaded _ coherent).1
  obtain ⟨first, listed⟩ := mem_inclusions member
  simp only [includedNames, found, parsed]
  exact List.mem_map_of_mem listed

end Fetching

section Ranks

variable {store : MemoryStore} {rank : String → Nat}

/-- What is reached by includes has a lower rank if every included template has. -/
theorem rank_lt_of_transGen
    (falls : ∀ other included, store.Includes other included → rank included < rank other)
    {name included : String} (reached : Relation.TransGen store.Includes name included) :
    rank included < rank name := by
  induction reached with
  | single step => exact falls _ _ step
  | tail _ step ih => exact Nat.lt_trans (falls _ _ step) ih

/-- A path of includes is no longer than the rank that it starts with, if every included template
has a lower rank. -/
theorem length_le_rank
    (falls : ∀ other included, store.Includes other included → rank included < rank other)
    (path : List String) :
    ∀ {name : String}, (name :: path).IsChain store.Includes → path.length ≤ rank name := by
  induction path with
  | nil => exact fun _ => Nat.zero_le _
  | cons next path ih =>
    intro name linked
    obtain ⟨step, rest⟩ := List.isChain_cons_cons.1 linked
    have lower := falls name next step
    have below := ih rest
    rw [List.length_cons]
    omega

/-- The includes of a template come to an end when the stored templates have allowed names and
include templates of lower ranks only. -/
theorem finiteIncludes_of_rank {name : String} {limit : Nat} (rank : String → Nat)
    (proper : ∀ key ∈ store.templates.names, isTemplateName key = true)
    (falls : ∀ other ∈ store.templates.names, ∀ included ∈ store.includedNames other,
      rank included < rank other)
    (low : rank name ≤ limit) : store.FiniteIncludes name limit := by
  have lower : ∀ other included, store.Includes other included → rank included < rank other := by
    intro other included includes
    obtain ⟨stored, listed⟩ := mem_includedNames proper includes
    exact falls other stored included listed
  constructor
  · intro included _ returns
    exact Nat.lt_irrefl _ (rank_lt_of_transGen lower returns)
  · intro path linked
    exact Nat.le_trans (length_le_rank lower path linked) low

end Ranks

end MemoryStore

namespace MemoryStore.FiniteIncludes

variable {store : MemoryStore} {name included : String} {limit : Nat} {path : List String}

/-- A template that continues a chain is new. -/
theorem new (finite : store.FiniteIncludes name limit)
    (linked : (name :: path ++ [included]).IsChain store.Includes) :
    included ∉ name :: path := by
  intro met
  obtain ⟨before, after, same⟩ := List.append_of_mem met
  rw [same] at linked
  have returns : Relation.TransGen store.Includes included included := by
    rw [List.append_assoc] at linked
    exact transGen_of_isChain linked.right_of_append
  cases before with
  | nil =>
    obtain ⟨rfl, -⟩ := List.cons.inj same
    exact finite.acyclic name .refl returns
  | cons first before =>
    obtain ⟨rfl, -⟩ := List.cons.inj same
    have reached : Relation.TransGen store.Includes name included := by
      have split : name :: before ++ included :: after ++ [included] =
          (name :: before ++ [included]) ++ (after ++ [included]) := by simp
      rw [split] at linked
      exact transGen_of_isChain linked.left_of_append
    exact finite.acyclic included reached.to_reflTransGen returns

/-- A chain that is continued is not as long as it may be. -/
theorem room (finite : store.FiniteIncludes name limit)
    (linked : (name :: path ++ [included]).IsChain store.Includes) : path.length < limit := by
  have bound := finite.fits (path ++ [included]) linked
  rw [List.length_append, List.length_singleton] at bound
  omega

end MemoryStore.FiniteIncludes

end NoteTemplate
