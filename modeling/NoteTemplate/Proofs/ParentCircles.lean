import NoteTemplate.Proofs.Session

/-!
# Parents that come back to each other

The ancestors of a name are the name itself, its parent, the parent of that and so on, as long
as there are templates. A resolution follows them, so it fails exactly when they return to a name
met before, and then it reports them up to the first return (`Resolves.returns_of_circular`).
Nothing else makes the loading of a template fail (`load_by_ancestors`): neither blocks that do
not match nor parents that are missing or have a name that is not allowed.
-/

namespace NoteTemplate

open Template (Compiled)
open Template.Attempt

namespace MemoryStore

/-- The parent that the template of a name asks for; none if there is no such template. A name
that is not allowed has no template. -/
def parent? (store : MemoryStore) (name : String) : Option String :=
  (store.look name).toOption.join.bind Source.parent?

/-- The name that some steps from a name to its parent lead to, as far as there are
templates. -/
def ancestor? (store : MemoryStore) (name : String) : Nat → Option String
  | 0 => some name
  | steps + 1 => (store.ancestor? name steps).bind store.parent?

/-- Some ancestor of a name is met for the second time. -/
def AncestorsReturn (store : MemoryStore) (name : String) : Prop :=
  ∃ early late again, early ≤ late ∧ store.ancestor? name (late + 1) = some again ∧
    store.ancestor? name early = some again

/-- A chain lists the ancestors of a name up to the first one that is met again. -/
def FirstReturn (store : MemoryStore) (name : String) (chain : List String) : Prop :=
  ∃ path again, chain = path ++ [again] ∧ path.Nodup ∧ again ∈ path ∧
    ∀ steps < chain.length, store.ancestor? name steps = chain[steps]?

section Ancestors

variable {store : MemoryStore} {name parent : String} {source : Source}

/-- The parent of a stored template is the one that its text names. -/
theorem parent?_of_stored (allowed : isTemplateName name = true)
    (found : store.stored? name = some source) : store.parent? name = source.parent? := by
  simp [parent?, look_of_isTemplateName allowed, found, Except.toOption]

/-- A name that is not allowed has no parent. -/
theorem parent?_of_refused (refused : isTemplateName name = false) :
    store.parent? name = none := by
  obtain ⟨rejection, checked⟩ := checkName_of_refused refused
  simp [parent?, look, checked, bind, Except.bind, Except.toOption]

/-- A name without a template has no parent. -/
theorem parent?_of_absent (absent : store.stored? name = none) : store.parent? name = none := by
  cases allowed : isTemplateName name with
  | true => simp [parent?, look_of_isTemplateName allowed, absent, Except.toOption]
  | false => exact parent?_of_refused allowed

/-- The ancestors behind the first one are those of the parent. -/
theorem ancestor?_succ (next : store.parent? name = some parent) (steps : Nat) :
    store.ancestor? name (steps + 1) = store.ancestor? parent steps := by
  induction steps with
  | zero => simp [ancestor?, next]
  | succ steps ih => rw [ancestor?, ih, ancestor?]

/-- A name without a parent has no ancestors but itself. -/
theorem ancestor?_succ_of_none (last : store.parent? name = none) (steps : Nat) :
    store.ancestor? name (steps + 1) = none := by
  induction steps with
  | zero => simp [ancestor?, last]
  | succ steps ih => rw [ancestor?, ih, Option.bind_none]

/-- In a list of ancestors up to the first return, each name is the parent of the one before. -/
theorem FirstReturn.parent?_eq {chain : List String} (returns : store.FirstReturn name chain)
    {position : Nat} {child : String} (here : chain[position]? = some child)
    (next : chain[position + 1]? = some parent) : store.parent? child = some parent := by
  obtain ⟨path, again, _, _, _, ancestors⟩ := returns
  obtain ⟨inside, _⟩ := List.getElem?_eq_some_iff.1 next
  have upper := ancestors (position + 1) inside
  have lower := ancestors position (Nat.lt_of_succ_lt inside)
  rw [ancestor?, lower, here, Option.bind_some, next] at upper
  exact upper

/-- A first return is a return. -/
theorem FirstReturn.ancestorsReturn {chain : List String}
    (returns : store.FirstReturn name chain) : store.AncestorsReturn name := by
  obtain ⟨path, again, rfl, _, met, ancestors⟩ := returns
  obtain ⟨early, inside, there⟩ := List.getElem_of_mem met
  obtain ⟨late, length⟩ := Nat.exists_eq_succ_of_ne_zero (Nat.ne_of_gt (Nat.zero_lt_of_lt inside))
  refine ⟨early, late, again, by omega, ?_, ?_⟩
  · rw [ancestors (late + 1) (by simp [length]), ← Nat.succ_eq_add_one, ← length]
    simp
  · rw [ancestors early (by simp; omega), List.getElem?_append_left inside,
      List.getElem?_eq_getElem inside, there]

end Ancestors

end MemoryStore

namespace Resolves

variable {store : MemoryStore} {chain : List String} {name : String}

/-- A resolution below a chain that fails reports the chain, and behind it the ancestors of the
name up to the first that is met again in either. -/
theorem returns_of_circular {circle : List String}
    (resolves : Resolves store.stored? chain name (.error (.circular circle)))
    (allowed : isTemplateName name = true) (distinct : (chain ++ [name]).Nodup) :
    ∃ path again, circle = chain ++ path ++ [again] ∧ (chain ++ path).Nodup ∧
      again ∈ chain ++ path ∧
      ∀ steps < (path ++ [again]).length,
        store.ancestor? name steps = (path ++ [again])[steps]? := by
  generalize same : Except.error (Failure.circular circle) = answer at resolves
  -- Every step moves the name from the path to the chain, so the report is cut one name later.
  induction resolves with
  | @circular chain name parent source found next met =>
    cases same
    have above : store.parent? name = some parent := by
      rw [MemoryStore.parent?_of_stored allowed found, next]
    refine ⟨[name], parent, rfl, distinct, met, fun steps inside => ?_⟩
    match steps, inside with
    | 0, _ => rfl
    | 1, _ => rw [MemoryStore.ancestor?_succ above]; rfl
  | @failed chain name parent source failure found next new parentAllowed upper ih =>
    have above : store.parent? name = some parent := by
      rw [MemoryStore.parent?_of_stored allowed found, next]
    obtain ⟨path, again, circle, pathDistinct, met, ancestors⟩ :=
      ih parentAllowed (nodup_behind distinct new) same
    refine ⟨name :: path, again, by simp [circle], by simpa using pathDistinct,
      by simpa using met, fun steps inside => ?_⟩
    cases steps with
    | zero => rfl
    | succ steps =>
      rw [MemoryStore.ancestor?_succ above, ancestors steps (by simpa using inside)]
      rfl
  | _ => cases same

/-- The ancestors of a name that resolves return neither to the chain nor to each other. -/
theorem no_return {resolved : Resolved}
    (resolves : Resolves store.stored? chain name (.ok resolved))
    (allowed : isTemplateName name = true) (steps : Nat) {found : String}
    (reached : store.ancestor? name (steps + 1) = some found) :
    found ∉ chain ++ [name] ∧ ∀ early ≤ steps, store.ancestor? name early ≠ some found := by
  generalize same : Except.ok resolved = answer at resolves
  induction resolves generalizing resolved steps with
  | missing absent =>
    rw [MemoryStore.ancestor?_succ_of_none (MemoryStore.parent?_of_absent absent)] at reached
    cases reached
  | root stored last =>
    have none := (MemoryStore.parent?_of_stored allowed stored).trans last
    rw [MemoryStore.ancestor?_succ_of_none none] at reached
    cases reached
  | @orphan chain name parent source stored next new refused =>
    have above := (MemoryStore.parent?_of_stored allowed stored).trans next
    rw [MemoryStore.ancestor?_succ above] at reached
    cases steps with
    | zero =>
      obtain rfl := Option.some.inj reached
      refine ⟨new, fun early atMost equal => ?_⟩
      obtain rfl := Nat.le_zero.1 atMost
      obtain rfl := Option.some.inj equal
      simp at new
    | succ steps =>
      rw [MemoryStore.ancestor?_succ_of_none (MemoryStore.parent?_of_refused refused)] at reached
      cases reached
  | @filled chain name parent source upper stored next new parentAllowed _ ih =>
    have above := (MemoryStore.parent?_of_stored allowed stored).trans next
    rw [MemoryStore.ancestor?_succ above] at reached
    -- The parent is resolved below a chain that holds the name as well, so what lies above it
    -- can only return to names above the name.
    have outside : found ∉ chain ++ [name] := by
      cases steps with
      | zero =>
        obtain rfl := Option.some.inj reached
        exact new
      | succ steps =>
        have further := (ih parentAllowed steps reached rfl).1
        exact fun member => further (List.mem_append_left _ member)
    refine ⟨outside, fun early atMost equal => ?_⟩
    cases early with
    | zero =>
      obtain rfl := Option.some.inj equal
      simp at outside
    | succ early =>
      rw [MemoryStore.ancestor?_succ above] at equal
      cases steps with
      | zero => omega
      | succ steps => exact (ih parentAllowed steps reached rfl).2 early (by omega) equal
  | _ => cases same

end Resolves

namespace MemoryStore.Prepares

variable {store : MemoryStore} {name : String}

/-- The preparation of a name fails by a circle only, and the circle lists its ancestors up to the
first return. -/
theorem firstReturn {failure : Failure} (prepares : store.Prepares name (.error failure))
    (allowed : isTemplateName name = true) :
    ∃ chain, failure = .circular chain ∧ store.FirstReturn name chain := by
  obtain ⟨circle, rfl⟩ := prepares.circular_of_error
  obtain ⟨resolved, resolves, same⟩ := prepares
  cases resolved with
  | ok resolved => cases same
  | error cause =>
    cases same
    obtain ⟨path, again, reported, distinct, met, ancestors⟩ :=
      resolves.returns_of_circular allowed (by simp)
    rw [List.nil_append] at reported distinct met
    exact ⟨circle, rfl, path, again, reported, distinct, met, reported ▸ ancestors⟩

/-- The ancestors of a name that is prepared do not return. -/
theorem not_ancestorsReturn {prepared : Option Compiled}
    (prepares : store.Prepares name (.ok prepared)) (allowed : isTemplateName name = true) :
    ¬ store.AncestorsReturn name := by
  obtain ⟨resolved, resolves, same⟩ := prepares
  rintro ⟨early, late, again, order, reached, before⟩
  cases resolved with
  | error failure => cases same
  | ok resolved => exact (resolves.no_return allowed late reached).2 early order before

/-- What is prepared is a template exactly when one is stored. -/
theorem isSome_iff {prepared : Option Compiled} (prepares : store.Prepares name (.ok prepared)) :
    prepared.isSome ↔ (store.stored? name).isSome := by
  obtain ⟨resolved, resolves, same⟩ := prepares
  cases resolved with
  | error failure => cases same
  | ok resolved =>
    cases same
    simp only [Resolved.compiled?, Option.isSome_map]
    refine ⟨fun text => ?_, resolves.text_isSome⟩
    cases resolves with
    | missing absent => simp [Resolved.ofMissing] at text
    | root found _ | orphan found _ _ _ | filled found _ _ _ _ => simp [found]

/-- A template that a name is prepared to has the name. -/
theorem template_name {template : Compiled} (prepares : store.Prepares name (.ok (some template))) :
    template.name = name := by
  obtain ⟨resolved, _, same⟩ := prepares
  cases resolved with
  | error failure => cases same
  | ok resolved =>
    obtain ⟨text, _, rfl⟩ := Option.map_eq_some_iff.1 (Except.ok.inj same).symm
    rfl

end MemoryStore.Prepares

/-- Whatever an engine did on a store before, the loading of an allowed name answers as the
unbounded rules say: with nothing exactly if there is no such template, with a circle exactly if
the ancestors of the name return, and then with the ancestors up to the first return. In all
other cases it answers with a template. -/
theorem load_by_ancestors (store : MemoryStore) (limit capacity : Nat) {name : String}
    (allowed : isTemplateName name = true) (before : List EngineStep) :
    ∃ answer after,
      (store.shelf.load name).run
          (EngineStep.cacheAfter limit store (.ofCapacity capacity) before) = (answer, after) ∧
      store.Prepares name answer ∧
      (answer = .ok none ↔ store.stored? name = none) ∧
      ((∃ chain, answer = .error (.circular chain)) ↔ store.AncestorsReturn name) ∧
      (∀ chain, answer = .error (.circular chain) → store.FirstReturn name chain) ∧
      ((store.stored? name).isSome → ¬ store.AncestorsReturn name →
        ∃ template, answer = .ok (some template)) := by
  have within := store.within_history
  obtain ⟨answer, prepares, answers⟩ := load_answers within allowed
  have coherent := EngineStep.cacheAfter_coherent within limit before _
    (Cache.coherent_ofCapacity store.history capacity)
  refine ⟨answer, _, Prod.ext (answers _ coherent).1 rfl, prepares, ?_⟩
  cases answer with
  | error failure =>
    obtain ⟨chain, rfl, returns⟩ := prepares.firstReturn allowed
    have again := returns.ancestorsReturn
    refine ⟨⟨nofun, fun absent => ?_⟩, ⟨fun _ => again, fun _ => ⟨chain, rfl⟩⟩, ?_,
      fun _ straight => absurd again straight⟩
    · obtain ⟨_, late, _, _, reached, _⟩ := again
      rw [MemoryStore.ancestor?_succ_of_none (MemoryStore.parent?_of_absent absent)] at reached
      cases reached
    · rintro other same
      cases same
      exact returns
  | ok prepared =>
    have straight := prepares.not_ancestorsReturn allowed
    have present := prepares.isSome_iff
    refine ⟨?_, ⟨nofun, fun again => absurd again straight⟩, nofun, fun stored _ => ?_⟩
    · simpa using not_congr present
    · obtain ⟨template, rfl⟩ := Option.isSome_iff_exists.1 (present.2 stored)
      exact ⟨template, rfl⟩

/-- A store with a template whose ancestors return to its parent, which leaves a block open. -/
def parentRing : MemoryStore :=
  let extending (parent : String) := Template.tagText ("extends \"" ++ parent ++ "\"")
  ⟨[("leaf", ⟨extending "left", 1⟩),
    ("left", ⟨extending "right" ++ Template.tagText "block \"b\"", 2⟩),
    ("right", ⟨extending "left", 3⟩)], 3⟩

/-- What the loading of a template answers whose parent is in a circle, after other loadings. -/
theorem parentRing_load :
    isTemplateName "leaf" = true ∧ ∃ answer after,
      (parentRing.shelf.load "leaf").run
          (EngineStep.cacheAfter 8 parentRing (.ofCapacity 4) [.load "left"]) = (answer, after) ∧
      parentRing.Prepares "leaf" answer ∧
      (answer = .ok none ↔ parentRing.stored? "leaf" = none) ∧
      ((∃ chain, answer = .error (.circular chain)) ↔ parentRing.AncestorsReturn "leaf") ∧
      (∀ chain, answer = .error (.circular chain) → parentRing.FirstReturn "leaf" chain) ∧
      ((parentRing.stored? "leaf").isSome → ¬ parentRing.AncestorsReturn "leaf" →
        ∃ template, answer = .ok (some template)) := by
  have allowed : isTemplateName "leaf" = true := by decide +kernel
  exact ⟨allowed, load_by_ancestors parentRing 8 4 allowed [.load "left"]⟩

/-- The ancestors return although the circle does not go through the template itself. -/
example : parentRing.AncestorsReturn "leaf" :=
  ⟨1, 2, "left", by decide, by decide +kernel, by decide +kernel⟩

end NoteTemplate
