import Mathlib.Data.List.Nodup
import Mathlib.Tactic.Tauto
import NoteTemplate.Store.BuiltIn
import NoteTemplate.Store.Memory

/-!
# Installed templates

Installing stores the built-in templates that are missing, in their order, and tells their names.
What is in the store already stays as it is, and installing again changes nothing
(`install_keeps`). The templates are stored one after another, so what happens to a single one
(`installOne_run`) is carried through a list of them: none of the others touches it, since no name
occurs twice in the list (`installAll_run`).
-/

namespace NoteTemplate

namespace BuiltIn

/-- Entries with allowed names of which none occurs twice. -/
structure IsStock (entries : List (String × String)) : Prop where
  /-- The names are allowed. -/
  allowed : ∀ entry ∈ entries, isTemplateName entry.1 = true
  /-- No name occurs twice. -/
  once : (entries.map Prod.fst).Nodup

/-- The built-in templates have allowed names of which none occurs twice. -/
theorem isStock_templates : IsStock templates where
  allowed := by decide +kernel
  once := by decide +kernel

/-- The entries that a store does not have. -/
def missing (store : MemoryStore) (entries : List (String × String)) : List (String × String) :=
  entries.filter fun entry => !Fields.contains store.templates entry.1

/-- A store behind the writes of entries, one after another. -/
def stocked (store : MemoryStore) (entries : List (String × String)) : MemoryStore :=
  entries.foldl (fun store entry => (store.write entry.1 entry.2).2) store

section Entries

variable {store : MemoryStore} {entries : List (String × String)} {name text : String}

/-- What a list of missing entries is without its first one. -/
theorem IsStock.of_cons {entry : String × String} (stock : IsStock (entry :: entries)) :
    isTemplateName entry.1 = true ∧ entry.1 ∉ entries.map Prod.fst ∧ IsStock entries := by
  obtain ⟨first, later⟩ := List.forall_mem_cons.1 stock.allowed
  obtain ⟨apart, once⟩ := List.nodup_cons.1 stock.once
  exact ⟨first, apart, later, once⟩

/-- Some of the entries are a stock as well. -/
theorem IsStock.missing (stock : IsStock entries) (store : MemoryStore) :
    IsStock (missing store entries) where
  allowed entry member := stock.allowed entry (List.mem_filter.1 member).1
  once := stock.once.sublist (List.filter_sublist.map Prod.fst)

/-! ## Writing entries -/

/-- Under a name that is not among the entries is what was there before. -/
theorem stored?_stocked_of_notMem (stock : IsStock entries) (other : name ∉ entries.map Prod.fst) :
    (stocked store entries).stored? name = store.stored? name := by
  induction entries generalizing store with
  | nil => rfl
  | cons entry rest ih =>
    obtain ⟨allowed, -, tail⟩ := stock.of_cons
    rw [List.map_cons, List.mem_cons, not_or] at other
    obtain ⟨different, elsewhere⟩ := other
    calc (stocked store (entry :: rest)).stored? name
        = (store.write entry.1 entry.2).2.stored? name := ih tail elsewhere
      _ = store.stored? name := by rw [MemoryStore.stored?_write allowed, if_neg different]

/-- Under the name of an entry is its text. -/
theorem stored?_stocked_of_mem (stock : IsStock entries) (member : (name, text) ∈ entries) :
    ∃ stamp, (stocked store entries).stored? name = some ⟨text, stamp⟩ := by
  induction entries generalizing store with
  | nil => cases member
  | cons entry rest ih =>
    obtain ⟨allowed, apart, tail⟩ := stock.of_cons
    rcases List.mem_cons.1 member with rfl | later
    · refine ⟨store.clock + 1, ?_⟩
      calc (stocked store ((name, text) :: rest)).stored? name
          = (store.write name text).2.stored? name := stored?_stocked_of_notMem tail apart
        _ = some ⟨text, store.clock + 1⟩ := by rw [MemoryStore.stored?_write allowed, if_pos rfl]
    · exact ih tail later

/-- The names behind the writes are those of the entries and those that were there before. -/
theorem mem_names_stocked (stock : IsStock entries) :
    name ∈ (stocked store entries).templates.names ↔
      name ∈ entries.map Prod.fst ∨ name ∈ store.templates.names := by
  induction entries generalizing store with
  | nil => simp [stocked]
  | cons entry rest ih =>
    obtain ⟨allowed, -, tail⟩ := stock.of_cons
    have later : name ∈ (stocked store (entry :: rest)).templates.names ↔
        name ∈ rest.map Prod.fst ∨ name ∈ (store.write entry.1 entry.2).2.templates.names :=
      ih tail
    rw [later, MemoryStore.mem_names_write allowed, List.map_cons, List.mem_cons]
    tauto

/-! ## Installing entries -/

/-- A template is stored unless there is one of its name. -/
theorem installOne_run (allowed : isTemplateName name = true) :
    (installOne name text : StateM MemoryStore (Except Failure Bool)).run store =
      if Fields.contains store.templates name then (.ok false, store)
      else (.ok true, (store.write name text).2) := by
  have asked : (TemplateStore.shelf : StateM MemoryStore Shelf).run store = (store.shelf, store) :=
    rfl
  have written : (TemplateStore.write name text : StateM MemoryStore (Except Failure Unit)).run
      store = (.ok (), (store.write name text).2) :=
    Prod.ext (MemoryStore.write_of_isTemplateName allowed) rfl
  rw [installOne, run_bind_of_run asked, MemoryStore.contains_of_isTemplateName allowed]
  cases Fields.contains store.templates name with
  | true => rfl
  | false =>
    dsimp only
    rw [run_bind_of_run written]
    rfl

/-- The missing ones of some entries are stored and told. -/
theorem installAll_run (stock : IsStock entries) :
    (installAll entries : StateM MemoryStore (Except Failure (List String))).run store =
      (.ok ((missing store entries).map Prod.fst), stocked store (missing store entries)) := by
  induction entries generalizing store with
  | nil => rfl
  | cons entry rest ih =>
    obtain ⟨name, text⟩ := entry
    obtain ⟨allowed, apart, tail⟩ := stock.of_cons
    have ran := @installOne_run store name text allowed
    cases present : Fields.contains store.templates name with
    | true =>
      have none : missing store ((name, text) :: rest) = missing store rest := by
        simp [missing, present]
      rw [present, if_pos rfl] at ran
      rw [installAll, run_bind_of_run ran]
      dsimp only
      rw [run_bind_of_run (ih tail), none]
      rfl
    | false =>
      -- The entries behind it have other names, so the same ones of them are missing.
      have same : missing (store.write name text).2 rest = missing store rest := by
        apply List.filter_congr
        intro entry member
        have listed : entry.1 ∈ rest.map Prod.fst := List.mem_map_of_mem member
        have different : entry.1 ≠ name := fun same => apart (same ▸ listed)
        have found : (store.write name text).2.stored? entry.1 = store.stored? entry.1 := by
          rw [MemoryStore.stored?_write allowed, if_neg different]
        simp only [MemoryStore.stored?] at found
        simp only [Fields.contains, found]
      have first : missing store ((name, text) :: rest) = (name, text) :: missing store rest := by
        simp [missing, present]
      rw [present, if_neg Bool.false_ne_true] at ran
      rw [installAll, run_bind_of_run ran]
      dsimp only
      rw [run_bind_of_run (ih tail), same, first]
      rfl

/-- Installing entries leaves what is stored under any name. -/
theorem stored?_installed_of_stored (stock : IsStock entries) {source : Source}
    (found : store.stored? name = some source) :
    (stocked store (missing store entries)).stored? name = some source := by
  have other : name ∉ (missing store entries).map Prod.fst := by
    intro member
    obtain ⟨entry, absent, rfl⟩ := List.mem_map.1 member
    have away := (List.mem_filter.1 absent).2
    simp only [MemoryStore.stored?] at found
    simp [Fields.contains, found] at away
  rw [stored?_stocked_of_notMem (stock.missing store) other, found]

/-- Installing entries stores the text of one that is not there. -/
theorem stored?_installed_of_absent (stock : IsStock entries) (member : (name, text) ∈ entries)
    (absent : store.stored? name = none) :
    ∃ stamp, (stocked store (missing store entries)).stored? name = some ⟨text, stamp⟩ := by
  simp only [MemoryStore.stored?] at absent
  have missed : (name, text) ∈ missing store entries :=
    List.mem_filter.2 ⟨member, by simp [Fields.contains, absent]⟩
  exact stored?_stocked_of_mem (stock.missing store) missed

/-- Behind installing entries every one of them is there. -/
theorem isSome_stored?_installed (stock : IsStock entries) (member : (name, text) ∈ entries) :
    ((stocked store (missing store entries)).stored? name).isSome := by
  cases found : store.stored? name with
  | some source => rw [stored?_installed_of_stored stock found, Option.isSome_some]
  | none =>
    obtain ⟨stamp, there⟩ := stored?_installed_of_absent stock member found
    rw [there, Option.isSome_some]

/-- Behind installing entries none of them is missing. -/
theorem missing_installed (stock : IsStock entries) :
    missing (stocked store (missing store entries)) entries = [] := by
  apply List.filter_eq_nil_iff.2
  intro entry member
  have there : ((stocked store (missing store entries)).stored? entry.1).isSome :=
    isSome_stored?_installed stock member
  simp only [MemoryStore.stored?] at there
  simp only [Fields.contains, there, Bool.not_true, Bool.false_eq_true, not_false_eq_true]

/-- Installing entries brings no other names. -/
theorem mem_names_installed (stock : IsStock entries) :
    name ∈ (stocked store (missing store entries)).templates.names ↔
      name ∈ entries.map Prod.fst ∨ name ∈ store.templates.names := by
  rw [mem_names_stocked (stock.missing store)]
  constructor
  · rintro (member | before)
    · exact .inl (List.filter_sublist.map Prod.fst |>.subset member)
    · exact .inr before
  · rintro (member | before)
    · obtain ⟨entry, listed, rfl⟩ := List.mem_map.1 member
      cases present : Fields.contains store.templates entry.1 with
      | true => exact .inr (Fields.mem_names_of_find? present)
      | false =>
        have missed : entry ∈ missing store entries :=
          List.mem_filter.2 ⟨listed, by rw [present]; rfl⟩
        exact .inl (List.mem_map_of_mem missed)
    · exact .inr before

end Entries

/-- What is missing of the built-in templates is what the store says is not there. -/
theorem names_missing (store : MemoryStore) :
    (missing store templates).map Prod.fst =
      (templates.map Prod.fst).filter fun name => store.shelf.contains name = .ok false := by
  rw [missing, List.filter_map]
  congr 1
  apply List.filter_congr
  intro entry member
  have told : store.shelf.contains entry.1 = .ok (Fields.contains store.templates entry.1) :=
    MemoryStore.contains_of_isTemplateName (isStock_templates.allowed entry member)
  cases present : Fields.contains store.templates entry.1 <;> simp [told, present]

/-- Installing tells exactly the names of the built-in templates that are missing, in their order.
Behind it all of them are there, those that were missing with the built-in text. Every template that
was there before has its text and its stamp, and no others appear. Installing once more tells no
names and leaves the store as it is. -/
theorem install_keeps (store : MemoryStore) :
    ∃ changed : MemoryStore,
      (install : StateM MemoryStore (Except Failure (List String))).run store =
        (.ok ((templates.map Prod.fst).filter fun name => store.shelf.contains name = .ok false),
          changed) ∧
      (∀ name text, (name, text) ∈ templates → changed.shelf.contains name = .ok true ∧
        (store.shelf.contains name = .ok false →
          ∃ stamp, changed.shelf.read name = .ok (some ⟨text, stamp⟩))) ∧
      (∀ name source, store.shelf.read name = .ok (some source) →
        changed.shelf.read name = .ok (some source) ∧
          changed.shelf.modified name = .ok (some source.modified)) ∧
      (∀ name, name ∉ templates.map Prod.fst →
        changed.shelf.read name = store.shelf.read name ∧
          changed.shelf.modified name = store.shelf.modified name) ∧
      (∃ before behind, store.shelf.names = .ok before ∧ changed.shelf.names = .ok behind ∧
        ∀ name, name ∈ behind ↔ name ∈ templates.map Prod.fst ∨ name ∈ before) ∧
      (install : StateM MemoryStore (Except Failure (List String))).run changed =
        (.ok [], changed) := by
  have stock := isStock_templates
  have run : ∀ store : MemoryStore,
      (install : StateM MemoryStore (Except Failure (List String))).run store =
        (.ok ((missing store templates).map Prod.fst), stocked store (missing store templates)) :=
    fun _ => installAll_run stock
  refine ⟨stocked store (missing store templates), ?_, ?_, ?_, ?_, ?_, ?_⟩
  · rw [run, names_missing]
  · intro name text member
    have allowed := stock.allowed _ member
    refine ⟨(MemoryStore.contains_iff _ _).2 ⟨allowed, isSome_stored?_installed stock member⟩, ?_⟩
    intro away
    rw [MemoryStore.contains_of_isTemplateName allowed] at away
    have absent : store.stored? name = none :=
      Option.isNone_iff_eq_none.1 (Option.isSome_eq_false_iff.1 (Except.ok.inj away))
    obtain ⟨stamp, found⟩ := stored?_installed_of_absent stock member absent
    exact ⟨stamp, (MemoryStore.look_of_isTemplateName allowed).trans (congrArg _ found)⟩
  · intro name source read
    have found := MemoryStore.stored?_of_read read
    obtain ⟨same, stamped⟩ :=
      MemoryStore.shelf_congr ((stored?_installed_of_stored stock found).trans found.symm)
    refine ⟨same.trans read, stamped.trans ?_⟩
    exact congrArg (Except.map fun found => found.map Source.modified) read
  · intro name other
    have elsewhere : name ∉ (missing store templates).map Prod.fst := fun member =>
      other ((List.filter_sublist.map Prod.fst).subset member)
    exact MemoryStore.shelf_congr (stored?_stocked_of_notMem (stock.missing store) elsewhere)
  · exact ⟨_, _, rfl, rfl, fun name => mem_names_installed stock⟩
  · rw [run, missing_installed stock]
    rfl

end BuiltIn

end NoteTemplate
