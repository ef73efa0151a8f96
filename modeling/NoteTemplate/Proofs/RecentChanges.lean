import Mathlib.Data.List.Nodup
import NoteTemplate.Store.Recent

/-!
# Changes of a bounded collection

A bounded collection changes by storing, by forgetting one name, and by forgetting all. It
never holds two things of one name. What it holds under a name is what was last stored
there, and as long as the name is not forgotten it is lost only to a whole collection of
other names that were stored behind it (`lost_behind_store`): everything in front of an
entry was stored later than the entry.
-/

namespace NoteTemplate.Recent

variable {α : Type}

/-- A change of a collection. -/
inductive Change (α : Type) where
  /-- A thing is stored under a name. -/
  | store (name : String) (thing : α)
  /-- A name is forgotten. -/
  | erase (name : String)
  /-- All names are forgotten. -/
  | clear

/-- A collection of at most `limit` things behind a change. -/
def Change.run (limit : Nat) (recent : Recent α) : Change α → Recent α
  | .store name thing => Recent.store limit name thing recent
  | .erase name => Recent.erase name recent
  | .clear => []

/-- A collection of at most `limit` things behind changes. -/
def changed (limit : Nat) (recent : Recent α) (changes : List (Change α)) : Recent α :=
  changes.foldl (Change.run limit) recent

/-- What a change stores under a name. -/
def Change.storedAt? (name : String) : Change α → Option α
  | .store key thing => if key = name then some thing else none
  | .erase _ | .clear => none

/-- The name that a change stores under. -/
def Change.storedName? : Change α → Option String
  | .store key _ => some key
  | .erase _ | .clear => none

/-- The names of the things, the most recently stored first. -/
def names (recent : Recent α) : List String := recent.map Prod.fst

/-- Forgetting a name leaves the other names. -/
theorem names_erase (name : String) (recent : Recent α) :
    names (erase name recent) = (names recent).filter (· != name) := by
  simp only [names, erase, List.filter_map]
  rfl

/-- Storing leaves at most one thing of every name. -/
theorem names_store_nodup {recent : Recent α} (unique : (names recent).Nodup) (limit : Nat)
    (name : String) (thing : α) : (names (store limit name thing recent)).Nodup := by
  have kept : (names ((name, thing) :: erase name recent)).Nodup := by
    show (name :: names (erase name recent)).Nodup
    rw [names_erase]
    exact List.nodup_cons.2 ⟨by simp, unique.filter _⟩
  have front : names (store limit name thing recent) =
      (names ((name, thing) :: erase name recent)).take limit := List.map_take
  rw [front]
  exact kept.sublist (List.take_sublist _ _)

/-- A change leaves at most one thing of every name. -/
theorem Change.run_nodup {recent : Recent α} (unique : (names recent).Nodup) (limit : Nat)
    (change : Change α) : (names (change.run limit recent)).Nodup := by
  cases change with
  | store name thing => exact names_store_nodup unique limit name thing
  | erase name =>
    show (names (Recent.erase name recent)).Nodup
    rw [names_erase]
    exact unique.filter _
  | clear => exact List.nodup_nil

/-- A change leaves at most as many things as allowed. -/
theorem Change.run_length {limit : Nat} {recent : Recent α} (within : recent.length ≤ limit)
    (change : Change α) : (change.run limit recent).length ≤ limit := by
  cases change with
  | store name thing => exact store_length limit name thing recent
  | erase name => exact Nat.le_trans (List.length_filter_le _ _) within
  | clear => exact Nat.zero_le limit

/-- Changes leave at most as many things as allowed, at most one of every name. -/
theorem changed_bounded {limit : Nat} (changes : List (Change α)) :
    ∀ {recent : Recent α}, recent.length ≤ limit → (names recent).Nodup →
      (changed limit recent changes).length ≤ limit ∧
        (names (changed limit recent changes)).Nodup := by
  induction changes with
  | nil => exact fun within unique => ⟨within, unique⟩
  | cons change rest ih =>
    intro recent within unique
    exact ih (change.run_length within) (change.run_nodup unique limit)

/-- What is found under a name behind a change was stored by it, or was found before. -/
theorem Change.find?_run {limit : Nat} {recent : Recent α} {change : Change α} {name : String}
    {thing : α} (found : find? name (change.run limit recent) = some thing) :
    change.storedAt? name = some thing ∨
      change.storedAt? name = none ∧ find? name recent = some thing := by
  cases change with
  | store key stored =>
    have whole := find?_take found
    rw [find?_cons] at whole
    by_cases same : name = key
    · rw [if_pos same] at whole
      exact .inl (by rw [storedAt?, if_pos same.symm, whole])
    · rw [if_neg same, find?_erase, if_neg same] at whole
      exact .inr ⟨by rw [storedAt?, if_neg (Ne.symm same)], whole⟩
  | erase key =>
    have kept : find? name (Recent.erase key recent) = some thing := found
    rw [find?_erase] at kept
    by_cases same : name = key
    · rw [if_pos same] at kept
      cases kept
    · rw [if_neg same] at kept
      exact .inr ⟨rfl, kept⟩
  | clear => cases found

/-- What is found under a name behind changes is what was last stored under it. -/
theorem find?_changed {limit : Nat} {name : String} {thing : α} (changes : List (Change α)) :
    ∀ {recent : Recent α}, find? name (changed limit recent changes) = some thing →
      (changes.filterMap (Change.storedAt? name)).getLast?.or (find? name recent) =
        some thing := by
  induction changes with
  | nil => exact fun found => found
  | cons change rest ih =>
    intro recent found
    have later := @ih (change.run limit recent) found
    cases last : (rest.filterMap (Change.storedAt? name)).getLast? with
    | some stored =>
      rw [last] at later
      cases here : change.storedAt? name with
      | none =>
        rw [List.filterMap_cons_none here, last]
        exact later
      | some earlier =>
        rw [List.filterMap_cons_some here, List.getLast?_cons, last]
        exact later
    | none =>
      rw [last] at later
      have nothing : rest.filterMap (Change.storedAt? name) = [] := List.getLast?_eq_none_iff.1 last
      rcases Change.find?_run later with stored | ⟨silent, before⟩
      · rw [List.filterMap_cons_some stored, nothing]
        rfl
      · rw [List.filterMap_cons_none silent, nothing]
        exact before

/-- A thing of a name with others in front of it, all of which were stored under some of the
given names. -/
structure HeldBehind (name : String) (thing : α) (later : List String) (recent : Recent α) :
    Prop where
  /-- The collection, cut at the thing. -/
  split : ∃ front back, recent = front ++ (name, thing) :: back ∧ ∀ key ∈ names front, key ∈ later
  /-- No name occurs twice. -/
  unique : (names recent).Nodup

/-- A thing that is held is found. -/
theorem HeldBehind.find? {name : String} {thing : α} {later : List String} {recent : Recent α}
    (held : HeldBehind name thing later recent) : find? name recent = some thing := by
  obtain ⟨⟨front, back, rfl, known⟩, unique⟩ := held
  clear known
  induction front with
  | nil => exact (find?_cons name name thing back).trans (if_pos rfl)
  | cons entry rest ih =>
    obtain ⟨key, other⟩ := entry
    have apart : key ∉ names (rest ++ (name, thing) :: back) := (List.nodup_cons.1 unique).1
    have different : name ≠ key := fun same => apart (by simp [names, same])
    rw [List.cons_append, find?_cons, if_neg different]
    exact ih (List.nodup_cons.1 unique).2

/-- Names of which there are as many as the limit, all of them stored behind a name and other
than it. -/
def Crowded (limit : Nat) (name : String) (later : List String) : Prop :=
  ∃ crowd : List String, crowd.Nodup ∧ name ∉ crowd ∧ crowd ⊆ later ∧ limit ≤ crowd.length

/-- Storing under another name keeps a thing held, unless the collection is crowded with names
that were stored behind it. -/
theorem HeldBehind.store {name key : String} {thing : α} {later : List String}
    {recent : Recent α} (held : HeldBehind name thing later recent) (limit : Nat) (other : α)
    (different : key ≠ name) :
    HeldBehind name thing (key :: later) (Recent.store limit key other recent) ∨
      Crowded limit name (key :: later) := by
  obtain ⟨⟨front, back, rfl, known⟩, unique⟩ := held
  have cut : (key, other) :: Recent.erase key (front ++ (name, thing) :: back) =
      ((key, other) :: Recent.erase key front) ++ (name, thing) :: Recent.erase key back := by
    simp [Recent.erase, different.symm]
  have among : ∀ one ∈ names ((key, other) :: Recent.erase key front), one ∈ key :: later := by
    intro one member
    have member : one ∈ key :: names (Recent.erase key front) := member
    rw [names_erase] at member
    rcases List.mem_cons.1 member with rfl | member
    · exact List.mem_cons_self
    · exact List.mem_cons_of_mem _ (known one (List.mem_filter.1 member).1)
  by_cases room : (Recent.erase key front).length + 1 < limit
  · -- The thing stays within the limit, behind one more.
    have taken : Recent.store limit key other (front ++ (name, thing) :: back) =
        ((key, other) :: Recent.erase key front) ++ (name, thing) ::
          (Recent.erase key back).take (limit - ((Recent.erase key front).length + 2)) := by
      have past : limit - ((key, other) :: Recent.erase key front).length =
          (limit - ((Recent.erase key front).length + 2)) + 1 := by
        simp only [List.length_cons]
        omega
      rw [Recent.store, cut, List.take_append, past, List.take_succ_cons,
        List.take_of_length_le (by simp only [List.length_cons]; omega)]
    exact .inl ⟨⟨_, _, taken, among⟩, names_store_nodup unique limit key other⟩
  · -- What now stands in front of it fills the collection.
    have whole : (names (front ++ (name, thing) :: back)).Nodup := unique
    rw [names, List.map_append, List.map_cons] at whole
    have parts := List.nodup_append.1 whole
    have absent : name ∉ names front := fun member =>
      parts.2.2 name member name List.mem_cons_self rfl
    refine .inr ⟨names ((key, other) :: Recent.erase key front), ?_, ?_, among, ?_⟩
    · show (key :: names (Recent.erase key front)).Nodup
      rw [names_erase]
      exact List.nodup_cons.2 ⟨by simp, parts.1.filter _⟩
    · show name ∉ key :: names (Recent.erase key front)
      rw [names_erase]
      intro member
      rcases List.mem_cons.1 member with same | member
      · exact different same.symm
      · exact absent (List.mem_filter.1 member).1
    · simp only [names, List.map_cons, List.length_cons, List.length_map]
      omega

/-- Forgetting another name keeps a thing held. -/
theorem HeldBehind.erase {name key : String} {thing : α} {later : List String}
    {recent : Recent α} (held : HeldBehind name thing later recent) (different : key ≠ name) :
    HeldBehind name thing later (Recent.erase key recent) := by
  obtain ⟨⟨front, back, rfl, known⟩, unique⟩ := held
  refine ⟨⟨Recent.erase key front, Recent.erase key back, ?_, ?_⟩, ?_⟩
  · simp [Recent.erase, different.symm]
  · intro one member
    rw [names_erase] at member
    exact known one (List.mem_filter.1 member).1
  · rw [names_erase]
    exact unique.filter _

/-- What is crowded with some names is crowded with more. -/
theorem Crowded.mono {limit : Nat} {name : String} {later more : List String}
    (crowded : Crowded limit name later) (among : later ⊆ more) : Crowded limit name more := by
  obtain ⟨crowd, unique, absent, known, full⟩ := crowded
  exact ⟨crowd, unique, absent, fun _ member => among (known member), full⟩

/-- A thing that is held is still found behind changes that do not store under its name,
unless they forget the name, forget all, or crowd the collection. -/
theorem HeldBehind.lost {limit : Nat} {name : String} {thing : α} (changes : List (Change α)) :
    ∀ {later : List String} {recent : Recent α}, HeldBehind name thing later recent →
      (∀ change ∈ changes, change.storedAt? name = none) →
      Recent.find? name (changed limit recent changes) = none →
      .erase name ∈ changes ∨ .clear ∈ changes ∨
        Crowded limit name (later ++ changes.filterMap Change.storedName?) := by
  induction changes with
  | nil =>
    intro later recent held _ lost
    have found : Recent.find? name recent = none := lost
    rw [held.find?] at found
    cases found
  | cons change rest ih =>
    intro later recent held others lost
    have restOthers : ∀ change ∈ rest, change.storedAt? name = none :=
      fun change member => others change (List.mem_cons_of_mem _ member)
    cases change with
    | store key other =>
      have different : key ≠ name := by
        intro same
        have silent := others _ List.mem_cons_self
        rw [Change.storedAt?, if_pos same] at silent
        cases silent
      have listed : key :: later ++ rest.filterMap Change.storedName? ⊆
          later ++ (Change.store key other :: rest).filterMap Change.storedName? := by
        show _ ⊆ later ++ key :: rest.filterMap Change.storedName?
        intro one member
        simp only [List.cons_append, List.mem_cons, List.mem_append] at member ⊢
        tauto
      rcases held.store limit other different with kept | crowded
      · rcases ih kept restOthers lost with gone | gone | crowded
        · exact .inl (List.mem_cons_of_mem _ gone)
        · exact .inr (.inl (List.mem_cons_of_mem _ gone))
        · exact .inr (.inr (crowded.mono listed))
      · have crowded := crowded.mono (List.subset_append_left _ (rest.filterMap Change.storedName?))
        exact .inr (.inr (crowded.mono listed))
    | erase key =>
      by_cases same : key = name
      · exact .inl (same ▸ List.mem_cons_self)
      · rcases ih (held.erase same) restOthers lost with gone | gone | crowded
        · exact .inl (List.mem_cons_of_mem _ gone)
        · exact .inr (.inl (List.mem_cons_of_mem _ gone))
        · exact .inr (.inr crowded)
    | clear => exact .inr (.inl List.mem_cons_self)

/-- What was stored under a name and not since is found behind further changes, unless they
forget the name, forget all, or crowd the collection. -/
theorem lost_behind_store {limit : Nat} (positive : 0 < limit) {name : String} {thing : α}
    {recent : Recent α} (unique : (names recent).Nodup) {changes : List (Change α)}
    (others : ∀ change ∈ changes, change.storedAt? name = none)
    (lost : find? name (changed limit (store limit name thing recent) changes) = none) :
    .erase name ∈ changes ∨ .clear ∈ changes ∨
      Crowded limit name (changes.filterMap Change.storedName?) := by
  obtain ⟨room, rfl⟩ := Nat.exists_eq_succ_of_ne_zero (Nat.ne_of_gt positive)
  have held : HeldBehind name thing [] (store (room + 1) name thing recent) :=
    ⟨⟨[], (erase name recent).take room, rfl, by simp [names]⟩,
      names_store_nodup unique _ name thing⟩
  exact held.lost changes others lost

end NoteTemplate.Recent
