import NoteTemplate.Proofs.Answer
import NoteTemplate.Proofs.Resolution

/-!
# Loading through a cache

A history says which text was stored under a name with a stamp. A cache is coherent with
a history when the texts it remembers are those of the history, and a prepared template it
remembers is what its name prepares to in every store of the history that still has the
stamps. Loading keeps coherence, and from every coherent cache it answers what the rules of
`Resolves` say.
-/

namespace NoteTemplate

open Template (Compiled)
open Template.Attempt

/-- The text that was stored under a name with a stamp, as far as there was one. -/
abbrev History := String → Stamp → Option String

/-- The templates of a store belong to a history. -/
def MemoryStore.Within (store : MemoryStore) (history : History) : Prop :=
  ∀ name source, store.stored? name = some source →
    history name source.modified = some source.text

/-- The history that a store is by itself. -/
def MemoryStore.history (store : MemoryStore) : History := fun name stamp =>
  ((store.stored? name).filter (·.modified = stamp)).map Source.text

/-- A cache remembers nothing but what a history bears out. -/
structure Cache.Coherent (history : History) (cache : Cache) : Prop where
  /-- A remembered text was stored with its stamp. -/
  sources : ∀ name source, Recent.find? name cache.sources = some source →
    history name source.modified = some source.text
  /-- A remembered template is right wherever its stamps are current. -/
  compiled : ∀ name cached, Recent.find? name cache.compiled = some cached →
    ∀ store : MemoryStore, store.Within history → store.shelf.isCurrent cached.stamps = true →
      store.Prepares name (.ok (some cached.template))

/-- A store is within its own history. -/
theorem MemoryStore.within_history (store : MemoryStore) : store.Within store.history := by
  intro name source found
  simp only [history, found, Option.filter_some, decide_true, if_true, Option.map_some]

namespace MemoryStore

variable {store other : MemoryStore} {history : History}

/-- Stamps that are current are those of the store. -/
theorem stamp_of_isCurrent {stamps : List NameStamp}
    (current : store.shelf.isCurrent stamps = true) {name : String} {stamp : Option Stamp}
    (member : (name, stamp) ∈ stamps) : stamp = (store.stored? name).map Source.modified := by
  have here := List.all_eq_true.1 current _ member
  simp only [shelf, look] at here
  cases checked : checkName name with
  | error failure => simp [checked, bind, Except.bind, Except.map] at here
  | ok passed =>
    simp only [checked, bind, Except.bind, pure, Except.pure, Except.map,
      decide_eq_true_eq] at here
    exact here.symm

/-- Two stores of one history that have the same stamp for a name have the same template of
it. -/
theorem Within.stored_eq (one : store.Within history) (two : other.Within history) {name : String}
    (same : (other.stored? name).map Source.modified = (store.stored? name).map Source.modified) :
    other.stored? name = store.stored? name := by
  cases here : store.stored? name with
  | none => simpa [here] using same
  | some source =>
    cases there : other.stored? name with
    | none => simp [here, there] at same
    | some twin =>
      obtain ⟨text, modified⟩ := source
      obtain ⟨twinText, twinModified⟩ := twin
      simp only [here, there, Option.map_some, Option.some.injEq] at same
      subst same
      have texts : some text = some twinText := (one name _ here).symm.trans (two name _ there)
      rw [Option.some.inj texts]

/-- A name prepares to one answer only. -/
theorem Prepares.functional {name : String} {first second : Except Failure (Option Compiled)}
    (one : store.Prepares name first) (two : store.Prepares name second) : first = second := by
  obtain ⟨resolved, resolves, rfl⟩ := one
  obtain ⟨twin, twinResolves, rfl⟩ := two
  rw [resolves.functional twinResolves]

/-- The preparation of a name fails by a circle only. -/
theorem Prepares.circular_of_error {name : String} {failure : Failure}
    (prepares : store.Prepares name (.error failure)) : ∃ circle, failure = .circular circle := by
  obtain ⟨resolved, resolves, same⟩ := prepares
  cases resolved with
  | ok resolved => cases same
  | error cause =>
    cases same
    exact resolves.circular_of_error

/-- What one store resolves, every store of the history with the recorded stamps does. -/
theorem Within.prepares_of_isCurrent (one : store.Within history) (two : other.Within history)
    {name : String} {resolved : Resolved} (resolves : Resolves store.stored? [] name (.ok resolved))
    (current : other.shelf.isCurrent resolved.stamps = true) :
    other.Prepares name (.ok (resolved.compiled? name)) := by
  refine ⟨.ok resolved, resolves.of_agree fun key stamp member => ?_, rfl⟩
  apply one.stored_eq two
  rw [← stamp_of_isCurrent current member, ← resolves.stamps_stored key stamp member]

end MemoryStore

namespace Cache

variable {history : History} {cache : Cache}

/-- A cache without entries is coherent. -/
theorem coherent_ofCapacity (history : History) (capacity : Nat) :
    (ofCapacity capacity).Coherent history :=
  ⟨fun _ _ found => by simp [ofCapacity, Recent.find?] at found,
    fun _ _ found => by simp [ofCapacity, Recent.find?] at found⟩

/-- Remembering a text of the history keeps coherence. -/
theorem Coherent.storeSource (coherent : cache.Coherent history) {name : String} {source : Source}
    (stored : history name source.modified = some source.text) :
    (cache.storeSource name source).Coherent history := by
  refine ⟨fun key found at_key => ?_, coherent.compiled⟩
  rcases Recent.find?_store at_key with ⟨rfl, rfl⟩ | before
  · exact stored
  · exact coherent.sources key found before

/-- Remembering a template that is right wherever its stamps are current keeps coherence. -/
theorem Coherent.storeCompiled (coherent : cache.Coherent history) {name : String}
    {cached : CachedTemplate}
    (right : ∀ store : MemoryStore, store.Within history →
      store.shelf.isCurrent cached.stamps = true →
        store.Prepares name (.ok (some cached.template))) :
    (cache.storeCompiled name cached).Coherent history := by
  refine ⟨coherent.sources, fun key found at_key => ?_⟩
  rcases Recent.find?_store at_key with ⟨rfl, rfl⟩ | before
  · exact right
  · exact coherent.compiled key found before

/-- Forgetting a name keeps coherence. -/
theorem Coherent.invalidate (coherent : cache.Coherent history) (name : String) :
    (cache.invalidate name).Coherent history := by
  constructor
  · intro key source found
    simp only [Cache.invalidate, Recent.find?_erase] at found
    split at found
    · cases found
    · exact coherent.sources key source found
  · intro key cached found
    simp only [Cache.invalidate, Recent.find?_erase] at found
    split at found
    · cases found
    · exact coherent.compiled key cached found

/-- Forgetting everything keeps coherence. -/
theorem Coherent.clear (cache : Cache) : cache.clear.Coherent history :=
  ⟨fun _ _ found => by simp [Cache.clear, Recent.find?] at found,
    fun _ _ found => by simp [Cache.clear, Recent.find?] at found⟩

/-- Coherence does not depend on the counts. -/
theorem Coherent.counted (coherent : cache.Coherent history) (hits misses : Nat) :
    ({ cache with hits := hits, misses := misses } : Cache).Coherent history :=
  ⟨coherent.sources, coherent.compiled⟩

/-- Asking for a prepared template keeps coherence. -/
theorem Coherent.lookup (coherent : cache.Coherent history) (name : String)
    (isCurrent : List NameStamp → Bool) : (cache.lookup name isCurrent).2.Coherent history := by
  unfold Cache.lookup
  split
  · split
    · exact coherent.counted _ _
    · exact (coherent.counted _ _).invalidate name
  · exact coherent.counted _ _

/-- A prepared template that is found is right. -/
theorem Coherent.prepares_of_lookup (coherent : cache.Coherent history) {store : MemoryStore}
    (within : store.Within history) {name : String} {template : Compiled}
    (found : (cache.lookup name store.shelf.isCurrent).1 = some template) :
    store.Prepares name (.ok (some template)) := by
  unfold Cache.lookup at found
  split at found
  · rename_i cached here
    split at found
    · rename_i current
      cases found
      exact coherent.compiled name cached here store within current
    · cases found
  · cases found

/-- A text that is found with the stamp of a stored template is the text of that template. -/
theorem Coherent.source?_eq (coherent : cache.Coherent history) {store : MemoryStore}
    (within : store.Within history) {name : String} {source : Source} {text : String}
    (stored : store.stored? name = some source)
    (found : cache.source? name source.modified = some text) : text = source.text := by
  simp only [Cache.source?, Option.map_eq_some_iff, Option.filter_eq_some_iff,
    decide_eq_true_eq] at found
  obtain ⟨remembered, ⟨here, stamp⟩, rfl⟩ := found
  have old := coherent.sources name remembered here
  rw [stamp, within name source stored] at old
  exact (Option.some.inj old).symm

end Cache

section Loading

variable {store : MemoryStore} {history : History}

/-- Reading a text through the cache answers with the stored template. -/
theorem source_answers (within : store.Within history) {name : String}
    (allowed : isTemplateName name = true) :
    Answers (Cache.Coherent history) (store.shelf.source name) (.ok (store.stored? name)) := by
  unfold Shelf.source
  have modified : store.shelf.modified name = .ok ((store.stored? name).map Source.modified) := by
    simp only [MemoryStore.shelf, MemoryStore.look_of_isTemplateName allowed, Except.map]
  have read : store.shelf.read name = .ok (store.stored? name) :=
    MemoryStore.look_of_isTemplateName allowed
  rw [modified, read]
  refine (answers_ofExcept _).bind ?_
  cases stored : store.stored? name with
  | none => exact answers_pure none
  | some source =>
    refine answers_get_bind fun cache coherent => ?_
    split
    · rename_i text found
      rw [coherent.source?_eq within stored found]
      exact answers_pure _
    · refine (answers_ofExcept _).bind ?_
      have kept : ∀ cache : Cache, cache.Coherent history →
          (cache.storeSource name source).Coherent history :=
        fun _ coherent => coherent.storeSource (within name source stored)
      exact (answers_modify kept).bind (answers_pure _)

/-- A chain of stored names that are all different is no longer than the store, so there
is a step left for a parent that is not among them. -/
theorem length_lt_of_nodup {chain : List String} {name : String} {source : Source}
    (distinct : (chain ++ [name]).Nodup) (stored : ∀ key ∈ chain, (store.stored? key).isSome)
    (found : store.stored? name = some source) : chain.length < store.shelf.size := by
  have subset : chain ++ [name] ⊆ store.templates.names := by
    intro key member
    apply Fields.mem_names_of_find?
    rcases List.mem_append.1 member with before | last
    · exact stored key before
    · rw [List.mem_singleton.1 last]
      exact Option.isSome_of_mem found
  have bound := distinct.length_le_of_subset subset
  simp only [List.length_append, List.length_singleton, Fields.names, List.length_map] at bound
  exact bound

section Rules

variable {shelf : Shelf} {invariant : Cache → Prop} {steps : Nat} {chain : List String}
  {name parent : String} {source : Source}

/-- A name without a template is answered as missing. -/
theorem resolveBelow_missing (read : Answers invariant (shelf.source name) (.ok none)) :
    Answers invariant (shelf.resolveBelow steps chain name) (.ok (.ofMissing name)) := by
  rw [Shelf.resolveBelow]
  exact read.bind (answers_pure _)

/-- A template without a parent is answered as it is. -/
theorem resolveBelow_root (read : Answers invariant (shelf.source name) (.ok (some source)))
    (last : source.parent? = none) :
    Answers invariant (shelf.resolveBelow steps chain name) (.ok (.ofRoot name source)) := by
  rw [Source.parent?] at last
  rw [Shelf.resolveBelow]
  refine read.bind ?_
  simp only [last]
  exact answers_pure _

/-- A parent in the chain is answered as a circle. -/
theorem resolveBelow_circular (read : Answers invariant (shelf.source name) (.ok (some source)))
    (next : source.parent? = some parent) (met : parent ∈ chain ++ [name]) :
    Answers invariant (shelf.resolveBelow steps chain name)
      (.error (.circular (chain ++ [name] ++ [parent]))) := by
  rw [Source.parent?] at next
  rw [Shelf.resolveBelow]
  refine read.bind ?_
  simp only [next, if_pos met]
  exact answers_throw _

/-- A parent that no template can be called is answered as missing. -/
theorem resolveBelow_orphan (read : Answers invariant (shelf.source name) (.ok (some source)))
    (next : source.parent? = some parent) (new : parent ∉ chain ++ [name])
    (refused : isTemplateName parent = false) :
    Answers invariant (shelf.resolveBelow steps chain name)
      (.ok (fillIn name parent source ⟨none, [], []⟩)) := by
  rw [Source.parent?] at next
  rw [Shelf.resolveBelow]
  refine read.bind ?_
  simp only [next, if_neg new, refused, Bool.false_eq_true, if_false]
  exact answers_pure _

/-- With a step left, a parent that is answered is filled in, and its failure is handed on. -/
theorem resolveBelow_parent (read : Answers invariant (shelf.source name) (.ok (some source)))
    (next : source.parent? = some parent) (new : parent ∉ chain ++ [name])
    (allowed : isTemplateName parent = true) {answer : Except Failure Resolved}
    (upper : Answers invariant (shelf.resolveBelow steps (chain ++ [name]) parent) answer) :
    Answers invariant (shelf.resolveBelow (steps + 1) chain name)
      (answer.map (fillIn name parent source)) := by
  rw [Source.parent?] at next
  rw [Shelf.resolveBelow]
  refine read.bind ?_
  simp only [next, if_neg new, allowed, if_true]
  cases answer with
  | ok above => exact upper.bind (answers_pure _)
  | error failure => exact upper.bind_error

end Rules

/-- Different names with a new one behind them are different. -/
theorem nodup_behind {chain : List String} {new : String} (distinct : chain.Nodup)
    (unmet : new ∉ chain) : (chain ++ [new]).Nodup := by
  refine List.nodup_append.2 ⟨distinct, by simp, fun key member => ?_⟩
  simpa using fun same : key = new => unmet (same ▸ member)

/-- A chain of stored names that are all different grows by a new parent of its last name. -/
theorem chain_grows {chain : List String} {name parent : String} {source : Source}
    (distinct : (chain ++ [name]).Nodup) (stored : ∀ key ∈ chain, (store.stored? key).isSome)
    (found : store.stored? name = some source) (new : parent ∉ chain ++ [name]) :
    ((chain ++ [name]) ++ [parent]).Nodup ∧
      ∀ key ∈ chain ++ [name], (store.stored? key).isSome := by
  refine ⟨nodup_behind distinct new, fun key member => ?_⟩
  rcases List.mem_append.1 member with before | last
  · exact stored key before
  · rw [List.mem_singleton.1 last]
    exact Option.isSome_of_mem found

/-- Resolving through the cache answers as the rules say, with enough steps for the
templates that are not in the chain yet. -/
theorem resolveBelow_answers (within : store.Within history) (steps : Nat) :
    ∀ (chain : List String) {name : String}, isTemplateName name = true →
      (chain ++ [name]).Nodup → (∀ key ∈ chain, (store.stored? key).isSome) →
      store.shelf.size ≤ chain.length + steps →
      ∃ answer, Resolves store.stored? chain name answer ∧
        Answers (Cache.Coherent history) (store.shelf.resolveBelow steps chain name) answer := by
  induction steps with
  | zero =>
    intro chain name allowed distinct stored enough
    have read := source_answers within allowed
    cases found : store.stored? name with
    | none => exact ⟨_, .missing found, resolveBelow_missing (found ▸ read)⟩
    | some source =>
      have room := length_lt_of_nodup distinct stored found
      omega
  | succ steps ih =>
    intro chain name allowed distinct stored enough
    have read := source_answers within allowed
    cases found : store.stored? name with
    | none => exact ⟨_, .missing found, resolveBelow_missing (found ▸ read)⟩
    | some source =>
      rw [found] at read
      cases next : source.parent? with
      | none => exact ⟨_, .root found next, resolveBelow_root read next⟩
      | some parent =>
        by_cases met : parent ∈ chain ++ [name]
        · exact ⟨_, .circular found next met, resolveBelow_circular read next met⟩
        · cases parentAllowed : isTemplateName parent with
          | false =>
            exact ⟨_, .orphan found next met parentAllowed,
              resolveBelow_orphan read next met parentAllowed⟩
          | true =>
            obtain ⟨longer, allStored⟩ := chain_grows distinct stored found met
            have still : store.shelf.size ≤ (chain ++ [name]).length + steps := by
              rw [List.length_append, List.length_singleton]
              omega
            obtain ⟨answer, upper, answers⟩ := ih _ parentAllowed longer allStored still
            refine ⟨_, ?_, resolveBelow_parent read next met parentAllowed answers⟩
            cases answer with
            | ok above => exact .filled found next met parentAllowed upper
            | error failure => exact .failed found next met parentAllowed upper

/-- A template of an allowed name loads to what its name prepares to, whatever the cache
remembers. -/
theorem load_answers (within : store.Within history) {name : String}
    (allowed : isTemplateName name = true) :
    ∃ answer, store.Prepares name answer ∧
      Answers (Cache.Coherent history) (store.shelf.load name) answer := by
  obtain ⟨resolved, resolves, resolution⟩ :=
    resolveBelow_answers within store.shelf.size [] allowed (by simp) (by simp) (by simp)
  have prepares : store.Prepares name (resolved.map (Resolved.compiled? name)) :=
    ⟨resolved, resolves, rfl⟩
  refine ⟨_, prepares, ?_⟩
  unfold Shelf.load
  rw [checkName_of_isTemplateName allowed]
  refine (answers_ofExcept (.ok ())).bind ?_
  refine answers_modifyGet_bind (fun cache coherent => coherent.lookup name _)
    fun cache coherent => ?_
  cases found : (cache.lookup name store.shelf.isCurrent).1 with
  | some template =>
    have right := coherent.prepares_of_lookup within found
    rw [prepares.functional right]
    exact answers_pure _
  | none =>
    change Answers _ (store.shelf.resolve name >>= _) _
    cases resolved with
    | error failure => exact resolution.bind_error
    | ok resolved =>
      refine resolution.bind ?_
      simp only [Except.map, Resolved.compiled?]
      cases text : resolved.text with
      | none => exact answers_pure _
      | some effective =>
        refine (answers_modify fun cache coherent => coherent.storeCompiled ?_).bind
          (answers_pure _)
        intro other otherWithin current
        have elsewhere := within.prepares_of_isCurrent otherWithin resolves current
        simpa only [Resolved.compiled?, text, Option.map_some] using elsewhere

/-- A name that no template can have is turned down. -/
theorem load_refused (store : MemoryStore) {name : String} (refused : isTemplateName name = false) :
    ∃ rejection, ∀ invariant : Cache → Prop,
      Answers invariant (store.shelf.load name) (.error (.rejected rejection)) := by
  obtain ⟨rejection, checked⟩ := checkName_of_refused refused
  refine ⟨rejection, fun invariant => ?_⟩
  unfold Shelf.load
  rw [checked]
  exact (answers_ofExcept (.error _)).bind_error

/-- A template to be included is fetched as its name prepares, and there is none of a name
that no template can have. -/
theorem fetch_answers (within : store.Within history) (name : String) :
    ∃ answer, Answers (Cache.Coherent history) (store.shelf.fetch name) answer ∧
      (isTemplateName name = true ∧ store.Prepares name answer ∨ answer = .ok none) := by
  unfold Shelf.fetch
  split
  · rename_i allowed
    obtain ⟨answer, prepares, answers⟩ := load_answers within allowed
    exact ⟨answer, answers, .inl ⟨allowed, prepares⟩⟩
  · exact ⟨.ok none, answers_pure none, .inr rfl⟩

/-- A template that is fetched is what its name prepares to. -/
theorem prepares_of_fetch (within : store.Within history) {name : String} {template : Compiled}
    (fetched : Answers (Cache.Coherent history) (store.shelf.fetch name) (.ok (some template))) :
    store.Prepares name (.ok (some template)) := by
  obtain ⟨answer, answers, given⟩ := fetch_answers within name
  have coherent := Cache.coherent_ofCapacity history 0
  have same : answer = .ok (some template) :=
    (answers _ coherent).1.symm.trans (fetched _ coherent).1
  subst same
  rcases given with ⟨_, prepares⟩ | missing
  · exact prepares
  · cases missing

end Loading

end NoteTemplate
