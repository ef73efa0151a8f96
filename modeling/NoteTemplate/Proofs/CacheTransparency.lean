import NoteTemplate.Proofs.Session

/-!
# The cache does not show

In a session in which no name is ever given two texts under one stamp, everything the
engine answers is what an engine with an empty cache would answer on the store as it is at
that moment (`replies_eq_freshReplies`). The texts that the session puts into the store
make up its history; every step keeps the store within the history and the cache coherent
with it.
-/

namespace NoteTemplate

/-- An operation in a session. -/
inductive Step where
  /-- An operation of the store. -/
  | store (step : StoreStep)
  /-- An operation of the engine. -/
  | engine (step : EngineStep)

/-- The replies in a session of a store and an engine with one cache. -/
def replies (limit : Nat) : MemoryStore → Cache → List Step → List Reply
  | _, _, [] => []
  | store, cache, .store step :: rest =>
    (step.run store).1 :: replies limit (step.run store).2 cache rest
  | store, cache, .engine step :: rest =>
    (step.run limit store cache).1 :: replies limit store (step.run limit store cache).2 rest

/-- The replies in a session when every operation of the engine starts with an empty cache. -/
def freshReplies (limit capacity : Nat) : MemoryStore → List Step → List Reply
  | _, [] => []
  | store, .store step :: rest =>
    (step.run store).1 :: freshReplies limit capacity (step.run store).2 rest
  | store, .engine step :: rest =>
    (step.run limit store (.ofCapacity capacity)).1 :: freshReplies limit capacity store rest

/-- The template that an operation puts into a store, if the store takes it. -/
def StoreStep.deposit? (store : MemoryStore) : StoreStep → Option (String × Source)
  | .write name text => if isTemplateName name then some (name, ⟨text, store.clock + 1⟩) else none
  | .insertAt name text modified =>
    if isTemplateName name then some (name, ⟨text, modified⟩) else none
  | .remove _ => none

/-- The templates that a session puts into a store, in order. -/
def deposits : MemoryStore → List Step → List (String × Source)
  | _, [] => []
  | store, .store step :: rest =>
    (step.deposit? store).toList ++ deposits (step.run store).2 rest
  | store, .engine _ :: rest => deposits store rest

/-- No name is given two texts under one stamp. -/
def OneTextPerStamp (given : List (String × Source)) : Prop :=
  ∀ name first second, (name, first) ∈ given → (name, second) ∈ given →
    first.modified = second.modified → first.text = second.text

instance (given : List (String × Source)) : Decidable (OneTextPerStamp given) :=
  decidable_of_iff (∀ first ∈ given, ∀ second ∈ given, first.1 = second.1 →
      first.2.modified = second.2.modified → first.2.text = second.2.text)
    ⟨fun each name first second here there => each _ here _ there rfl,
      fun one first here second there same => by
        obtain ⟨name, source⟩ := first
        obtain ⟨key, twin⟩ := second
        cases same
        exact one name source twin here there⟩

/-- The history that some templates make up. -/
def historyOf (given : List (String × Source)) : History := fun name stamp =>
  (given.find? fun entry => entry.1 = name ∧ entry.2.modified = stamp).map (·.2.text)

/-- A template is in the history that it makes up with others, if each stamp has one text. -/
theorem historyOf_eq {given : List (String × Source)} (one : OneTextPerStamp given)
    {name : String} {source : Source} (member : (name, source) ∈ given) :
    historyOf given name source.modified = some source.text := by
  unfold historyOf
  cases found : given.find? fun entry => entry.1 = name ∧ entry.2.modified = source.modified with
  | none =>
    have missed := List.find?_eq_none.1 found _ member
    simp at missed
  | some entry =>
    obtain ⟨key, twin⟩ := entry
    have same := List.find?_some found
    simp only [decide_eq_true_eq] at same
    obtain ⟨rfl, stamps⟩ := same
    have texts := one key twin source (List.mem_of_find?_eq_some found) member stamps
    simp only [Option.map_some, texts]

namespace MemoryStore

variable {store : MemoryStore} {history : History}

/-- Storing a text of the history, if its name is allowed, keeps a store in order and within
the history. -/
theorem Within.insertAt (within : store.Within history) (sorted : Fields.Sorted store.templates)
    (name text : String) (modified : Stamp)
    (known : isTemplateName name = true → history name modified = some text) :
    (store.insertAt name text modified).2.Within history ∧
      Fields.Sorted (store.insertAt name text modified).2.templates := by
  unfold MemoryStore.insertAt
  cases allowed : isTemplateName name with
  | true =>
    rw [checkName_of_isTemplateName allowed]
    refine ⟨fun key found at_key => ?_, Fields.insert_sorted sorted⟩
    simp only [stored?, Fields.find?_insert] at at_key
    split at at_key
    · rename_i same
      obtain rfl := Option.some.inj at_key
      exact same ▸ known allowed
    · exact within key found at_key
  | false =>
    obtain ⟨rejection, refused⟩ := checkName_of_refused allowed
    rw [refused]
    exact ⟨within, sorted⟩

/-- Removing a template keeps a store within the history. -/
theorem Within.erase (within : store.Within history) (sorted : Fields.Sorted store.templates)
    (name : String) :
    ({ store with templates := Fields.erase name store.templates } : MemoryStore).Within
      history := by
  intro key found at_key
  simp only [stored?, Fields.find?_erase sorted] at at_key
  split at at_key
  · cases at_key
  · exact within key found at_key

end MemoryStore

/-- An operation of a store keeps it in order and within the history that has what is put
in. -/
theorem StoreStep.run_within {store : MemoryStore} {history : History}
    (within : store.Within history) (sorted : Fields.Sorted store.templates) (step : StoreStep)
    (known : ∀ name source, (name, source) ∈ (step.deposit? store).toList →
      history name source.modified = some source.text) :
    (step.run store).2.Within history ∧ Fields.Sorted (step.run store).2.templates := by
  cases step with
  | write name text =>
    have ticked : ({ store with clock := store.clock + 1 } : MemoryStore).Within history := within
    exact ticked.insertAt sorted name text _ fun allowed =>
      known name ⟨text, store.clock + 1⟩ (by simp [deposit?, allowed])
  | insertAt name text modified =>
    exact within.insertAt sorted name text modified fun allowed =>
      known name ⟨text, modified⟩ (by simp [deposit?, allowed])
  | remove name => exact ⟨within.erase sorted name, Fields.erase_sorted sorted⟩

/-- From a store within a history and a coherent cache, a session that puts nothing but
templates of the history into the store is answered as from an empty cache. -/
theorem replies_eq_of_coherent (history : History) (limit capacity : Nat) (steps : List Step) :
    ∀ (store : MemoryStore) (cache : Cache), store.Within history →
      Fields.Sorted store.templates → cache.Coherent history →
      (∀ name source, (name, source) ∈ deposits store steps →
        history name source.modified = some source.text) →
      replies limit store cache steps = freshReplies limit capacity store steps := by
  induction steps with
  | nil => exact fun _ _ _ _ _ _ => rfl
  | cons step rest ih =>
    intro store cache within sorted coherent known
    cases step with
    | store step =>
      obtain ⟨stillWithin, stillSorted⟩ := step.run_within within sorted fun name source member =>
        known name source (List.mem_append_left _ member)
      have later := ih _ cache stillWithin stillSorted coherent fun name source member =>
        known name source (List.mem_append_right _ member)
      simp only [replies, freshReplies, later]
    | engine step =>
      obtain ⟨given, answers⟩ := step.run_coherent within limit
      obtain ⟨same, kept⟩ := answers cache coherent
      have fresh := (answers _ (Cache.coherent_ofCapacity history capacity)).1
      have later := ih store _ within sorted kept known
      simp only [replies, freshReplies, same, fresh, later]

/-- A session that stores texts by writing only gives every text a stamp of its own, above
what the clock showed before. -/
theorem deposits_ascend (steps : List Step) :
    ∀ store : MemoryStore, (∀ name text modified, .store (.insertAt name text modified) ∉ steps) →
      (deposits store steps).Pairwise (fun first second => first.2.modified < second.2.modified) ∧
        ∀ entry ∈ deposits store steps, store.clock < entry.2.modified := by
  induction steps with
  | nil => exact fun _ _ => ⟨List.Pairwise.nil, by simp [deposits]⟩
  | cons step rest ih =>
    intro store written
    have later := fun after : MemoryStore => ih after fun name text modified member =>
      written name text modified (List.mem_cons_of_mem _ member)
    cases step with
    | engine step => exact later store
    | store step =>
      cases step with
      | insertAt name text modified => exact (written name text modified List.mem_cons_self).elim
      | remove name => exact later _
      | write name text =>
        obtain ⟨ascend, above⟩ := later (StoreStep.run store (.write name text)).2
        have clock : (StoreStep.run store (.write name text)).2.clock = store.clock + 1 := by
          simp only [StoreStep.run, MemoryStore.write, MemoryStore.insertAt]
          split <;> rfl
        rw [clock] at above
        simp only [deposits, StoreStep.deposit?]
        split
        · refine ⟨List.pairwise_cons.2 ⟨above, ascend⟩, ?_⟩
          simpa using fun name source member => Nat.lt_of_succ_lt (above (name, source) member)
        · exact ⟨ascend, fun entry member => Nat.lt_of_succ_lt (above entry member)⟩

/-- Stamps that ascend belong to one text each. -/
theorem oneTextPerStamp_of_ascend {given : List (String × Source)}
    (ascend : given.Pairwise fun first second => first.2.modified < second.2.modified) :
    OneTextPerStamp given := by
  induction given with
  | nil => exact fun _ _ _ here => absurd here List.not_mem_nil
  | cons entry rest ih =>
    obtain ⟨above, tail⟩ := List.pairwise_cons.1 ascend
    intro name first second here there same
    rcases List.mem_cons.1 here with rfl | earlier
    · rcases List.mem_cons.1 there with equal | later
      · cases equal
        rfl
      · exact absurd same (Nat.ne_of_lt (above _ later))
    · rcases List.mem_cons.1 there with rfl | later
      · exact absurd same.symm (Nat.ne_of_lt (above _ earlier))
      · exact ih tail name first second earlier later same

/-- The cache does not show: from an empty store and an empty cache of any capacity, a
session in which no name is given two texts under one stamp is answered as if the engine
started every operation with an empty cache. A session that stores all texts by writing is
of this kind. -/
theorem replies_eq_freshReplies (limit capacity fresh : Nat) (steps : List Step) :
    (OneTextPerStamp (deposits {} steps) →
      replies limit {} (.ofCapacity capacity) steps = freshReplies limit fresh {} steps) ∧
    ((∀ name text modified, .store (.insertAt name text modified) ∉ steps) →
      OneTextPerStamp (deposits {} steps)) := by
  constructor
  · intro one
    refine replies_eq_of_coherent (historyOf (deposits {} steps)) limit fresh steps {} _ ?_
      List.Pairwise.nil (Cache.coherent_ofCapacity _ capacity) ?_
    · intro name source found
      simp [MemoryStore.stored?, Fields.find?] at found
    · exact fun name source member => historyOf_eq one member
  · exact fun written => oneTextPerStamp_of_ascend (deposits_ascend steps {} written).1

/-- A session in which a parent is missing, appears, changes, is removed and comes back under
its old stamp, while the cache holds a single template. -/
def parentComesAndGoes : List Step :=
  let child :=
    "\x7b\x7bextends \"base\"\x7d\x7d\x7b\x7bblock \"b\"\x7d\x7dmine\x7b\x7b/block\x7d\x7d"
  let base := "<\x7b\x7bblock \"b\"\x7d\x7d\x7b\x7b/block\x7d\x7d>"
  [.store (.write "note" child), .engine (.load "note"),
    .store (.insertAt "base" base 7), .engine (.render "note" .empty),
    .store (.insertAt "base" "other" 9), .engine (.validate "note"), .engine (.load "base"),
    .store (.remove "base"), .engine (.loadText "note"),
    .store (.insertAt "base" base 7), .engine (.invalidate "base"), .engine (.load "note")]

/-- The cache does not show while a parent comes and goes. -/
theorem parentComesAndGoes_replies :
    OneTextPerStamp (deposits {} parentComesAndGoes) ∧
      replies 8 {} (.ofCapacity 1) parentComesAndGoes =
        freshReplies 8 128 {} parentComesAndGoes := by
  have one : OneTextPerStamp (deposits {} parentComesAndGoes) := by decide
  exact ⟨one, (replies_eq_freshReplies 8 1 128 parentComesAndGoes).1 one⟩

end NoteTemplate
