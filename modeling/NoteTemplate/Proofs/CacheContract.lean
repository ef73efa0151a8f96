import NoteTemplate.Proofs.RecentChanges
import NoteTemplate.Store.Cache

/-!
# What a cache promises

Whatever operations a cache runs, in any order, it holds a limited number of entries, answers
with what was last stored, and loses an entry for a reason only (`Cache.keepsContract`). Texts
and prepared templates change in the same way: an operation stores an entry, or drops a name,
or drops all names. So each kind of entries is a bounded collection behind a list of changes,
and what is known of those holds of both kinds. A lookup with success changes nothing but the
count of hits, so leaving it out of a run is not noticed.
-/

namespace NoteTemplate

open Template (Compiled)

/-- An operation on a cache. -/
inductive CacheStep where
  /-- Remembers a text. -/
  | storeSource (name : String) (source : Source)
  /-- Asks for the text of a name with a stamp. -/
  | findSource (name : String) (modified : Stamp)
  /-- Remembers a prepared template. -/
  | storeCompiled (name : String) (cached : CachedTemplate)
  /-- Asks for the prepared template of a name, if its stamps pass a test. -/
  | findCompiled (name : String) (isCurrent : List NameStamp → Bool)
  /-- Forgets a name. -/
  | invalidate (name : String)
  /-- Forgets all names. -/
  | clear

/-- What an operation on a cache answers. -/
inductive CacheReply where
  /-- A text, if one is found. -/
  | text (found : Option String)
  /-- A prepared template, if one is found. -/
  | template (found : Option Compiled)
  /-- Nothing. -/
  | done

/-- Whether something was asked for and is found. -/
def CacheReply.isFound : CacheReply → Bool
  | .text found => found.isSome
  | .template found => found.isSome
  | .done => false

namespace CacheStep

/-- Runs an operation. -/
def run (cache : Cache) : CacheStep → CacheReply × Cache
  | .storeSource name source => (.done, cache.storeSource name source)
  | .findSource name modified => (.text (cache.source? name modified), cache)
  | .storeCompiled name cached => (.done, cache.storeCompiled name cached)
  | .findCompiled name isCurrent =>
    (.template (cache.lookup name isCurrent).1, (cache.lookup name isCurrent).2)
  | .invalidate name => (.done, cache.invalidate name)
  | .clear => (.done, cache.clear)

/-- The text that an operation stores, with its name. -/
def storedSource? : CacheStep → Option (String × Source)
  | .storeSource name source => some (name, source)
  | _ => none

/-- The prepared template that an operation stores, with its name. -/
def storedCompiled? : CacheStep → Option (String × CachedTemplate)
  | .storeCompiled name cached => some (name, cached)
  | _ => none

/-- Whether an operation asks for a prepared template. -/
def isLookup : CacheStep → Bool
  | .findCompiled .. => true
  | _ => false

/-- An operation does not change how many entries are kept. -/
theorem run_limit (cache : Cache) (step : CacheStep) : (step.run cache).2.limit = cache.limit := by
  cases step with
  | findCompiled name isCurrent =>
    simp only [run, Cache.lookup]
    split
    · split <;> rfl
    · rfl
  | _ => rfl

end CacheStep

namespace Cache

/-- The cache behind operations. -/
def after (cache : Cache) (steps : List CacheStep) : Cache :=
  steps.foldl (fun cache step => (step.run cache).2) cache

/-- Operations with their answers. -/
def trace (cache : Cache) : List CacheStep → List (CacheStep × CacheReply)
  | [] => []
  | step :: rest => (step, (step.run cache).1) :: trace (step.run cache).2 rest

/-- Whether a prepared template of a name is there whose stamps do not pass a test. -/
def isStale (cache : Cache) (name : String) (isCurrent : List NameStamp → Bool) : Bool :=
  (Recent.find? name cache.compiled).any fun cached => !isCurrent cached.stamps

/-- Among operations that follow, a prepared template of a name is asked for and found stale. -/
def FindsStale (cache : Cache) (name : String) (steps : List CacheStep) : Prop :=
  ∃ earlier isCurrent later, steps = earlier ++ .findCompiled name isCurrent :: later ∧
    (cache.after earlier).isStale name isCurrent = true

/-- Operations that follow make a cache forget a name: it is invalidated, or found stale, or
everything is forgotten. -/
def Drops (cache : Cache) (name : String) (steps : List CacheStep) : Prop :=
  .invalidate name ∈ steps ∨ .clear ∈ steps ∨ cache.FindsStale name steps

/-- A stale template is dropped together with the text of its name, and no other lookup changes
the entries. -/
theorem lookup_entries (cache : Cache) (name : String) (isCurrent : List NameStamp → Bool) :
    (cache.lookup name isCurrent).2.sources =
        (if cache.isStale name isCurrent then Recent.erase name cache.sources
          else cache.sources) ∧
      (cache.lookup name isCurrent).2.compiled =
        (if cache.isStale name isCurrent then Recent.erase name cache.compiled
          else cache.compiled) := by
  unfold Cache.lookup Cache.isStale
  cases Recent.find? name cache.compiled with
  | none => exact ⟨rfl, rfl⟩
  | some cached => cases passes : isCurrent cached.stamps <;> simp [passes, Cache.invalidate]

/-- Operations do not change how many entries are kept. -/
theorem after_limit (steps : List CacheStep) (cache : Cache) :
    (cache.after steps).limit = cache.limit := by
  induction steps generalizing cache with
  | nil => rfl
  | cons step rest ih => exact (ih (step.run cache).2).trans (step.run_limit cache)

/-- Operations one after another. -/
theorem after_append (cache : Cache) (first second : List CacheStep) :
    cache.after (first ++ second) = (cache.after first).after second :=
  List.foldl_append

end Cache

/-- What an operation does to the entries of one kind, given which of them it stores. -/
def CacheStep.change? {α : Type} (stored? : CacheStep → Option (String × α)) (cache : Cache)
    (step : CacheStep) : Option (Recent.Change α) :=
  match stored? step, step with
  | some (name, thing), _ => some (.store name thing)
  | none, .findCompiled name isCurrent =>
    if cache.isStale name isCurrent then some (.erase name) else none
  | none, .invalidate name => some (.erase name)
  | none, .clear => some .clear
  | none, _ => none

/-- One of the two kinds of entries: what a cache holds of it, and what operations store. -/
structure EntryKind (α : Type) where
  /-- The entries. -/
  entries : Cache → Recent α
  /-- The entry that an operation stores, with its name. -/
  stored? : CacheStep → Option (String × α)
  /-- An operation changes the entries as it is told of the kind. -/
  entries_run : ∀ (cache : Cache) (step : CacheStep),
    entries (step.run cache).2 =
      Recent.changed cache.limit (entries cache) (step.change? stored? cache).toList

namespace EntryKind

/-- The texts. -/
def sources : EntryKind Source where
  entries := Cache.sources
  stored? := CacheStep.storedSource?
  entries_run cache step := by
    cases step with
    | findCompiled name isCurrent =>
      have kept := (cache.lookup_entries name isCurrent).1
      simp only [CacheStep.run, CacheStep.change?, CacheStep.storedSource?, kept]
      split <;> rfl
    | _ => rfl

/-- The prepared templates. -/
def compiled : EntryKind CachedTemplate where
  entries := Cache.compiled
  stored? := CacheStep.storedCompiled?
  entries_run cache step := by
    cases step with
    | findCompiled name isCurrent =>
      have kept := (cache.lookup_entries name isCurrent).2
      simp only [CacheStep.run, CacheStep.change?, CacheStep.storedCompiled?, kept]
      split <;> rfl
    | _ => rfl

variable {α : Type} (kind : EntryKind α)

/-- The entry that an operation stores under a name. -/
def storedAt? (name : String) (step : CacheStep) : Option α :=
  (kind.stored? step).bind fun (key, thing) => if key = name then some thing else none

/-- The entry that is last stored under a name. -/
def last? (name : String) (steps : List CacheStep) : Option α :=
  (steps.filterMap (kind.storedAt? name)).getLast?

/-- The names that entries are stored under. -/
def storedNames (steps : List CacheStep) : List String :=
  steps.filterMap fun step => (kind.stored? step).map Prod.fst

/-- The changes of the entries through operations. -/
def changes (cache : Cache) : List CacheStep → List (Recent.Change α)
  | [] => []
  | step :: rest => (step.change? kind.stored? cache).toList ++ changes (step.run cache).2 rest

/-- The entries behind operations are those behind the changes. -/
theorem entries_after (steps : List CacheStep) (cache : Cache) :
    kind.entries (cache.after steps) =
      Recent.changed cache.limit (kind.entries cache) (kind.changes cache steps) := by
  induction steps generalizing cache with
  | nil => rfl
  | cons step rest ih =>
    calc
      kind.entries (cache.after (step :: rest)) =
          kind.entries ((step.run cache).2.after rest) := rfl
      _ = Recent.changed cache.limit (kind.entries (step.run cache).2)
            (kind.changes (step.run cache).2 rest) := by rw [ih, step.run_limit]
      _ = _ := by rw [kind.entries_run, changes, Recent.changed, Recent.changed, Recent.changed,
            List.foldl_append]

/-- An operation that stores an entry changes the entries by just that. -/
theorem change?_of_stored {cache : Cache} {step : CacheStep} {name : String} {thing : α}
    (stores : kind.stored? step = some (name, thing)) :
    step.change? kind.stored? cache = some (.store name thing) := by
  simp only [CacheStep.change?, stores]

/-- An operation that stores no entry stores nothing by its change. -/
theorem change?_of_silent {cache : Cache} {step : CacheStep} (silent : kind.stored? step = none)
    {change : Recent.Change α} (changed : step.change? kind.stored? cache = some change) :
    (∃ name, change = .erase name ∧ (step = .invalidate name ∨
      ∃ isCurrent, step = .findCompiled name isCurrent ∧ cache.isStale name isCurrent = true)) ∨
    change = .clear ∧ step = .clear := by
  cases step with
  | findCompiled name isCurrent =>
    simp only [CacheStep.change?, silent] at changed
    by_cases stale : cache.isStale name isCurrent = true
    · rw [if_pos stale] at changed
      exact .inl ⟨name, (Option.some.inj changed).symm, .inr ⟨isCurrent, rfl, stale⟩⟩
    · rw [if_neg stale] at changed
      cases changed
  | invalidate name =>
    simp only [CacheStep.change?, silent] at changed
    exact .inl ⟨name, (Option.some.inj changed).symm, .inl rfl⟩
  | clear =>
    simp only [CacheStep.change?, silent] at changed
    exact .inr ⟨(Option.some.inj changed).symm, rfl⟩
  | storeSource _ _ => simp [CacheStep.change?, silent] at changed
  | findSource _ _ => simp [CacheStep.change?, silent] at changed
  | storeCompiled _ _ => simp [CacheStep.change?, silent] at changed

/-- The change through an operation stores what the operation stores. -/
theorem change?_storedAt? (cache : Cache) (step : CacheStep) (name : String) :
    (step.change? kind.stored? cache).bind (Recent.Change.storedAt? name) =
      kind.storedAt? name step := by
  cases stores : kind.stored? step with
  | some entry =>
    obtain ⟨key, thing⟩ := entry
    simp only [kind.change?_of_stored stores, storedAt?, stores, Option.bind_some,
      Recent.Change.storedAt?]
  | none =>
    simp only [storedAt?, stores, Option.bind_none]
    cases changed : step.change? kind.stored? cache with
    | none => rfl
    | some change =>
      rcases kind.change?_of_silent stores changed with ⟨_, rfl, _⟩ | ⟨rfl, _⟩ <;> rfl

/-- The change through an operation stores under the name that the operation stores under. -/
theorem change?_storedName? (cache : Cache) (step : CacheStep) :
    (step.change? kind.stored? cache).bind Recent.Change.storedName? =
      (kind.stored? step).map Prod.fst := by
  cases stores : kind.stored? step with
  | some entry =>
    obtain ⟨key, thing⟩ := entry
    simp only [kind.change?_of_stored stores, Option.bind_some, Recent.Change.storedName?,
      Option.map_some]
  | none =>
    cases changed : step.change? kind.stored? cache with
    | none => rfl
    | some change =>
      rcases kind.change?_of_silent stores changed with ⟨_, rfl, _⟩ | ⟨rfl, _⟩ <;> rfl

/-- What is read off the changes one by one is read off the operations. -/
theorem filterMap_changes {β : Type} {ofChange : Recent.Change α → Option β}
    {ofStep : CacheStep → Option β}
    (same : ∀ cache step, (step.change? kind.stored? cache).bind ofChange = ofStep step)
    (steps : List CacheStep) (cache : Cache) :
    (kind.changes cache steps).filterMap ofChange = steps.filterMap ofStep := by
  induction steps generalizing cache with
  | nil => rfl
  | cons step rest ih =>
    rw [changes, List.filterMap_append, ih, List.filterMap_cons, ← same cache step]
    cases step.change? kind.stored? cache with
    | none => rfl
    | some change =>
      rw [Option.bind_some]
      cases read : ofChange change with
      | none => simp [read]
      | some result => simp [read]

/-- A name is forgotten by a change only if an operation drops it. -/
theorem drops_of_change {cache : Cache} {steps : List CacheStep} {name : String}
    (dropped : .erase name ∈ kind.changes cache steps ∨ .clear ∈ kind.changes cache steps) :
    cache.Drops name steps := by
  induction steps generalizing cache with
  | nil => rcases dropped with member | member <;> cases member
  | cons step rest ih =>
    simp only [changes, List.mem_append, Option.mem_toList] at dropped
    by_cases later : .erase name ∈ kind.changes (step.run cache).2 rest ∨
        .clear ∈ kind.changes (step.run cache).2 rest
    · rcases ih later with member | member | ⟨earlier, isCurrent, last, rfl, stale⟩
      · exact .inl (List.mem_cons_of_mem _ member)
      · exact .inr (.inl (List.mem_cons_of_mem _ member))
      · exact .inr (.inr ⟨step :: earlier, isCurrent, last, rfl, stale⟩)
    · have here : step.change? kind.stored? cache = some (.erase name) ∨
          step.change? kind.stored? cache = some .clear := by
        rcases dropped with (member | member) | (member | member)
        · exact .inl member
        · exact absurd (.inl member) later
        · exact .inr member
        · exact absurd (.inr member) later
      cases stores : kind.stored? step with
      | some entry => rw [kind.change?_of_stored stores] at here; simp at here
      | none =>
        rcases here with erased | cleared
        · rcases kind.change?_of_silent stores erased with ⟨key, same, why⟩ | ⟨same, _⟩
          · obtain rfl := Recent.Change.erase.inj same
            rcases why with rfl | ⟨isCurrent, rfl, stale⟩
            · exact .inl List.mem_cons_self
            · exact .inr (.inr ⟨[], isCurrent, rest, rfl, stale⟩)
          · cases same
        · rcases kind.change?_of_silent stores cleared with ⟨_, same, _⟩ | ⟨_, rfl⟩
          · cases same
          · exact .inr (.inl List.mem_cons_self)

/-- From an empty cache on, an entry that is found is the last one stored under its name. -/
theorem last?_of_find? {capacity : Nat} {steps : List CacheStep} {name : String} {thing : α}
    (empty : kind.entries (.ofCapacity capacity) = [])
    (found : Recent.find? name (kind.entries ((Cache.ofCapacity capacity).after steps)) =
      some thing) : kind.last? name steps = some thing := by
  rw [kind.entries_after, empty] at found
  have stored := Recent.find?_changed _ found
  rw [kind.filterMap_changes (fun cache step => kind.change?_storedAt? cache step name)] at stored
  simpa only [last?, Recent.find?, List.lookup_nil, Option.or_none] using stored

/-- From an empty cache on, there are never more entries than allowed, nor two of one name. -/
theorem entries_bounded {capacity : Nat} (steps : List CacheStep)
    (empty : kind.entries (.ofCapacity capacity) = []) :
    (kind.entries ((Cache.ofCapacity capacity).after steps)).length ≤ max 1 capacity ∧
      (Recent.names (kind.entries ((Cache.ofCapacity capacity).after steps))).Nodup := by
  rw [kind.entries_after, empty]
  exact Recent.changed_bounded _ (Nat.zero_le _) List.nodup_nil

/-- An entry that is not stored over is the last one of its name. -/
theorem last?_of_stored {before since : List CacheStep} {step : CacheStep} {name : String}
    {thing : α} (stores : kind.stored? step = some (name, thing))
    (others : ∀ later ∈ since, kind.storedAt? name later = none) :
    kind.last? name (before ++ step :: since) = some thing := by
  have none : since.filterMap (kind.storedAt? name) = [] := List.filterMap_eq_nil_iff.2 others
  have here : kind.storedAt? name step = some thing := by
    simp only [storedAt?, stores, Option.bind_some, if_true]
  rw [last?, List.filterMap_append, List.filterMap_cons_some here, none,
    List.getLast?_append_cons]
  rfl

/-- An entry that was stored, and was not stored over, is found, or it was dropped, or there is
a whole cache of other names that were stored since. -/
theorem found_or_lost {capacity : Nat} {before since : List CacheStep} {step : CacheStep}
    {name : String} {thing : α} (empty : kind.entries (.ofCapacity capacity) = [])
    (stores : kind.stored? step = some (name, thing))
    (others : ∀ other later, later ∈ since → kind.stored? later ≠ some (name, other)) :
    Recent.find? name
        (kind.entries ((Cache.ofCapacity capacity).after (before ++ step :: since))) = some thing ∨
      ((Cache.ofCapacity capacity).after (before ++ [step])).Drops name since ∨
      Recent.Crowded (max 1 capacity) name (kind.storedNames since) := by
  have silent : ∀ later ∈ since, kind.storedAt? name later = none := by
    intro later member
    cases stored : kind.stored? later with
    | none => simp only [storedAt?, stored, Option.bind_none]
    | some entry =>
      obtain ⟨key, other⟩ := entry
      have different : key ≠ name := fun same => others other later member (same ▸ stored)
      simp only [storedAt?, stored, Option.bind_some, if_neg different]
  cases found : Recent.find? name
      (kind.entries ((Cache.ofCapacity capacity).after (before ++ step :: since))) with
  | some kept =>
    have last := kind.last?_of_find? empty found
    rw [kind.last?_of_stored stores silent] at last
    exact .inl last.symm
  | none =>
    have cut : before ++ step :: since = before ++ [step] ++ since := by simp
    have limit : ((Cache.ofCapacity capacity).after before).limit = max 1 capacity :=
      Cache.after_limit before _
    have limitBehind : ((Cache.ofCapacity capacity).after (before ++ [step])).limit =
        max 1 capacity := Cache.after_limit _ _
    have stored : kind.entries ((Cache.ofCapacity capacity).after (before ++ [step])) =
        Recent.store (max 1 capacity) name thing
          (kind.entries ((Cache.ofCapacity capacity).after before)) := by
      rw [Cache.after_append, kind.entries_after, limit, changes, kind.change?_of_stored stores]
      rfl
    rw [cut, Cache.after_append, kind.entries_after, limitBehind, stored] at found
    have unstored : ∀ change ∈
        kind.changes ((Cache.ofCapacity capacity).after (before ++ [step])) since,
        change.storedAt? name = none := by
      have none := List.filterMap_eq_nil_iff.2 silent
      rw [← kind.filterMap_changes fun cache step => kind.change?_storedAt? cache step name] at none
      exact List.filterMap_eq_nil_iff.1 none
    have positive : 0 < max 1 capacity := by omega
    have bounded := (kind.entries_bounded before empty).2
    have why := Recent.lost_behind_store positive bounded unstored found
    rw [kind.filterMap_changes kind.change?_storedName?] at why
    rcases why with erased | cleared | crowded
    · exact .inr (.inl (kind.drops_of_change (.inl erased)))
    · exact .inr (.inl (kind.drops_of_change (.inr cleared)))
    · exact .inr (.inr crowded)

end EntryKind

/-- A trace from which some lookups with success are left out. -/
inductive OmitsFound : List (CacheStep × CacheReply) → List (CacheStep × CacheReply) → Prop where
  /-- Nothing is left out of nothing. -/
  | nil : OmitsFound [] []
  /-- An operation stays. -/
  | keep {entry : CacheStep × CacheReply} {whole rest : List (CacheStep × CacheReply)}
      (behind : OmitsFound whole rest) : OmitsFound (entry :: whole) (entry :: rest)
  /-- A lookup with success is left out. -/
  | skip {entry : CacheStep × CacheReply} {whole rest : List (CacheStep × CacheReply)}
      (found : entry.2.isFound = true) (behind : OmitsFound whole rest) :
      OmitsFound (entry :: whole) rest

namespace Cache

/-- Whether two caches differ in the count of hits at most. -/
def SameButHits (cache other : Cache) : Prop := ∃ hits, other = { cache with hits := hits }

/-- Two caches that differ from a third one in the count of hits differ in it at most. -/
theorem SameButHits.trans {first second third : Cache} (same : SameButHits first second)
    (next : SameButHits second third) : SameButHits first third := by
  obtain ⟨_, rfl⟩ := same
  obtain ⟨hits, rfl⟩ := next
  exact ⟨hits, rfl⟩

/-- The count of hits changes no answer and nothing but itself. -/
theorem SameButHits.run {cache other : Cache} (same : SameButHits cache other)
    (step : CacheStep) : (step.run other).1 = (step.run cache).1 ∧
      SameButHits (step.run cache).2 (step.run other).2 := by
  obtain ⟨hits, rfl⟩ := same
  cases step with
  | findCompiled name isCurrent =>
    simp only [CacheStep.run, Cache.lookup]
    cases Recent.find? name cache.compiled with
    | none => exact ⟨rfl, hits, rfl⟩
    | some cached =>
      cases passes : isCurrent cached.stamps with
      | true => exact ⟨by simp [passes], hits + 1, by simp [passes]⟩
      | false => exact ⟨by simp [passes], hits, by simp [passes, invalidate]⟩
  | _ => exact ⟨rfl, hits, rfl⟩

/-- A lookup with success changes the count of hits at most. -/
theorem sameButHits_of_isFound {cache : Cache} {step : CacheStep}
    (found : (step.run cache).1.isFound = true) : SameButHits (step.run cache).2 cache := by
  cases step with
  | findSource name modified => exact ⟨cache.hits, rfl⟩
  | findCompiled name isCurrent =>
    simp only [CacheStep.run, Cache.lookup] at found ⊢
    cases present : Recent.find? name cache.compiled with
    | none => simp [present, CacheReply.isFound] at found
    | some cached =>
      cases passes : isCurrent cached.stamps with
      | true => exact ⟨cache.hits, by simp [passes]⟩
      | false => simp [present, passes, CacheReply.isFound] at found
  | _ => cases found

/-- Leaving lookups with success out of a run changes no other answer, and in the end nothing
but the count of hits. -/
theorem trace_of_omitsFound {steps : List CacheStep} :
    ∀ {cache other : Cache} {rest : List (CacheStep × CacheReply)}, SameButHits cache other →
      OmitsFound (cache.trace steps) rest →
      other.trace (rest.map Prod.fst) = rest ∧
        SameButHits (cache.after steps) (other.after (rest.map Prod.fst)) := by
  induction steps with
  | nil =>
    intro cache other rest same omits
    cases omits
    exact ⟨rfl, same⟩
  | cons step steps ih =>
    intro cache other rest same omits
    cases omits with
    | keep behind =>
      obtain ⟨answer, still⟩ := same.run step
      obtain ⟨traced, ended⟩ := ih still behind
      refine ⟨?_, ended⟩
      rw [List.map_cons, trace, traced, answer]
    | skip found behind =>
      have still := (sameButHits_of_isFound found).trans same
      exact ih still behind

/-- An operation counts one hit or one miss if it asks for a prepared template, and else
neither. -/
theorem run_counts (cache : Cache) (step : CacheStep) :
    (step.run cache).2.hits + (step.run cache).2.misses =
      cache.hits + cache.misses + (if step.isLookup then 1 else 0) := by
  cases step with
  | findCompiled name isCurrent =>
    simp only [CacheStep.run, Cache.lookup, CacheStep.isLookup, if_true]
    split
    · split
      · simp only
        omega
      · simp only [Cache.invalidate]
        omega
    · simp only
      omega
  | _ => rfl

/-- Every lookup of a prepared template is counted once. -/
theorem after_counts (steps : List CacheStep) (cache : Cache) :
    (cache.after steps).hits + (cache.after steps).misses =
      cache.hits + cache.misses + steps.countP CacheStep.isLookup := by
  induction steps generalizing cache with
  | nil => rfl
  | cons step rest ih =>
    have later := ih (step.run cache).2
    rw [run_counts] at later
    rw [List.countP_cons]
    show ((step.run cache).2.after rest).hits + ((step.run cache).2.after rest).misses = _
    omega

/-- A text that is found under a name with a stamp is the one remembered there. -/
theorem find?_of_source? {cache : Cache} {name text : String} {modified : Stamp}
    (found : cache.source? name modified = some text) :
    Recent.find? name cache.sources = some ⟨text, modified⟩ := by
  unfold source? at found
  cases present : Recent.find? name cache.sources with
  | none => simp [present] at found
  | some source =>
    obtain ⟨kept, stamp⟩ := source
    simp only [present, Option.filter_some, decide_eq_true_eq] at found
    by_cases same : stamp = modified
    · rw [if_pos same] at found
      rw [same, ← Option.some.inj found]
    · rw [if_neg same] at found
      cases found

/-- A prepared template that is found is the one remembered, and its stamps pass the test. -/
theorem find?_of_lookup {cache : Cache} {name : String} {isCurrent : List NameStamp → Bool}
    {template : Compiled} (found : (cache.lookup name isCurrent).1 = some template) :
    ∃ stamps, Recent.find? name cache.compiled = some ⟨stamps, template⟩ ∧
      isCurrent stamps = true := by
  unfold lookup at found
  split at found
  · rename_i cached present
    split at found
    · rename_i passes
      cases found
      exact ⟨cached.stamps, present, passes⟩
    · cases found
  · cases found

/-- What a cache of a capacity promises behind a run of operations that starts when it is
empty. -/
structure KeepsContract (capacity : Nat) (steps : List CacheStep) : Prop where
  /-- There are no more texts than allowed, nor two of one name. -/
  sources_bounded : ((ofCapacity capacity).after steps).sources.length ≤ max 1 capacity ∧
    (Recent.names ((ofCapacity capacity).after steps).sources).Nodup
  /-- There are no more prepared templates than allowed, nor two of one name. -/
  compiled_bounded : ((ofCapacity capacity).after steps).compiled.length ≤ max 1 capacity ∧
    (Recent.names ((ofCapacity capacity).after steps).compiled).Nodup
  /-- A text that is found was last stored under its name, with the stamp asked for. -/
  source_last : ∀ name modified text,
    ((ofCapacity capacity).after steps).source? name modified = some text →
      EntryKind.sources.last? name steps = some ⟨text, modified⟩
  /-- A prepared template that is found was last stored under its name, with stamps that pass
  the test. -/
  compiled_last : ∀ name isCurrent template,
    (((ofCapacity capacity).after steps).lookup name isCurrent).1 = some template →
      ∃ stamps, EntryKind.compiled.last? name steps = some ⟨stamps, template⟩ ∧
        isCurrent stamps = true
  /-- The text that was last stored under a name is not found with its stamp only if the name
  was dropped since, or a whole cache of other names was stored since. -/
  source_lost : ∀ before name source since, steps = before ++ .storeSource name source :: since →
    (∀ other, .storeSource name other ∉ since) →
    ((ofCapacity capacity).after steps).source? name source.modified = none →
      ((ofCapacity capacity).after (before ++ [.storeSource name source])).Drops name since ∨
        Recent.Crowded (max 1 capacity) name (EntryKind.sources.storedNames since)
  /-- The same for the prepared template that was last stored under a name, whatever test its
  stamps pass. -/
  compiled_lost : ∀ before name cached since isCurrent,
    steps = before ++ .storeCompiled name cached :: since →
    (∀ other, .storeCompiled name other ∉ since) → isCurrent cached.stamps = true →
    (((ofCapacity capacity).after steps).lookup name isCurrent).1 = none →
      ((ofCapacity capacity).after (before ++ [.storeCompiled name cached])).Drops name since ∨
        Recent.Crowded (max 1 capacity) name (EntryKind.compiled.storedNames since)
  /-- Leaving any lookups with success out changes no other answer and no count but that of
  hits. -/
  found_omitted : ∀ rest, OmitsFound ((ofCapacity capacity).trace steps) rest →
    (ofCapacity capacity).trace (rest.map Prod.fst) = rest ∧
      SameButHits ((ofCapacity capacity).after steps)
        ((ofCapacity capacity).after (rest.map Prod.fst))
  /-- Every lookup of a prepared template is a hit or a miss. -/
  counted : ((ofCapacity capacity).after steps).hits + ((ofCapacity capacity).after steps).misses =
    steps.countP CacheStep.isLookup

/-- A cache keeps its promises behind every run of operations. -/
theorem keepsContract (capacity : Nat) (steps : List CacheStep) :
    KeepsContract capacity steps where
  sources_bounded := EntryKind.sources.entries_bounded steps rfl
  compiled_bounded := EntryKind.compiled.entries_bounded steps rfl
  source_last name modified text found :=
    EntryKind.sources.last?_of_find? rfl (find?_of_source? found)
  compiled_last name isCurrent template found := by
    obtain ⟨stamps, present, passes⟩ := find?_of_lookup found
    exact ⟨stamps, EntryKind.compiled.last?_of_find? rfl present, passes⟩
  source_lost before name source since split others lost := by
    subst split
    have silent : ∀ other later, later ∈ since →
        EntryKind.sources.stored? later ≠ some (name, other) := by
      intro other later member stored
      cases later with
      | storeSource key text =>
        obtain ⟨rfl, rfl⟩ := Prod.mk.inj (Option.some.inj stored)
        exact others text member
      | _ => cases stored
    refine (EntryKind.sources.found_or_lost rfl rfl silent).resolve_left fun found => ?_
    have present : Recent.find? name
        ((ofCapacity capacity).after (before ++ .storeSource name source :: since)).sources =
          some source := found
    simp [source?, present] at lost
  compiled_lost before name cached since isCurrent split others passes lost := by
    subst split
    have silent : ∀ other later, later ∈ since →
        EntryKind.compiled.stored? later ≠ some (name, other) := by
      intro other later member stored
      cases later with
      | storeCompiled key template =>
        obtain ⟨rfl, rfl⟩ := Prod.mk.inj (Option.some.inj stored)
        exact others template member
      | _ => cases stored
    refine (EntryKind.compiled.found_or_lost rfl rfl silent).resolve_left fun found => ?_
    have present : Recent.find? name
        ((ofCapacity capacity).after (before ++ .storeCompiled name cached :: since)).compiled =
          some cached := found
    simp [lookup, present, passes] at lost
  found_omitted rest omits := trace_of_omitsFound ⟨0, rfl⟩ omits
  counted := (after_counts steps _).trans (Nat.zero_add _)

end Cache

end NoteTemplate
