import NoteTemplate.Store.Shelf

/-!
# A store in memory

Templates by name. The store counts its writes, also the ones it refuses, and stamps
what is written with the count, so that no two texts of one template have the same
stamp unless a stamp is given. What is stored under an allowed name is what the
store answers when it is asked for the name, and a write changes it for this name
only (`MemoryStore.stored?_write`).
-/

namespace NoteTemplate

/-- A store in memory. -/
structure MemoryStore where
  /-- The templates by name. -/
  templates : Fields Source := []
  /-- How many writes there were. -/
  clock : Nat := 0

namespace MemoryStore

/-- The template stored under a name, if there is one. -/
def stored? (store : MemoryStore) (name : String) : Option Source :=
  Fields.find? name store.templates

/-- What an allowed name stands for. -/
def look (store : MemoryStore) (name : String) : Except Failure (Option Source) := do
  checkName name
  return Fields.find? name store.templates

/-- What the store holds. -/
def shelf (store : MemoryStore) : Shelf where
  modified name := (store.look name).map fun found => found.map Source.modified
  read name := store.look name
  names := .ok store.templates.names
  size := store.templates.length

/-- Stores a text with a given stamp. -/
def insertAt (store : MemoryStore) (name text : String) (modified : Stamp) :
    Except Failure Unit × MemoryStore :=
  match checkName name with
  | .error failure => (.error failure, store)
  | .ok () =>
    (.ok (), { store with templates := Fields.insert name ⟨text, modified⟩ store.templates })

/-- Stores a text. -/
def write (store : MemoryStore) (name text : String) : Except Failure Unit × MemoryStore :=
  let clock := store.clock + 1
  { store with clock := clock }.insertAt name text clock

/-- Removes a template and tells whether there was one. -/
def remove (store : MemoryStore) (name : String) : Bool × MemoryStore :=
  (Fields.contains store.templates name,
    { store with templates := Fields.erase name store.templates })

section Names

variable {store : MemoryStore} {name text : String}

/-- Looking an allowed name up gives the template that is stored under it. -/
theorem look_of_isTemplateName (allowed : isTemplateName name = true) :
    store.look name = .ok (store.stored? name) := by
  simp only [look, checkName_of_isTemplateName allowed]
  rfl

/-- Reading an allowed name behind its check gives the template that is stored under it. -/
theorem read_of_isTemplateName (allowed : isTemplateName name = true) :
    (checkName name >>= fun () => store.shelf.read name) = .ok (store.stored? name) := by
  rw [checkName_of_isTemplateName allowed]
  exact look_of_isTemplateName allowed

/-- A template that is read is stored. -/
theorem stored?_of_read {source : Source} (read : store.shelf.read name = .ok (some source)) :
    store.stored? name = some source := by
  cases allowed : isTemplateName name with
  | true => exact Except.ok.inj ((look_of_isTemplateName allowed).symm.trans read)
  | false =>
    obtain ⟨rejection, refused⟩ := checkName_of_refused allowed
    simp only [shelf, look, refused] at read
    cases read

/-- A store tells of an allowed name whether a template is stored under it. -/
theorem contains_of_isTemplateName (allowed : isTemplateName name = true) :
    store.shelf.contains name = .ok (Fields.contains store.templates name) := by
  have found : store.look name = .ok (Fields.find? name store.templates) :=
    look_of_isTemplateName allowed
  simp only [Shelf.contains, shelf, found, Except.map, Option.isSome_map, Fields.contains]

/-- A template is on the shelf of a store when its name is allowed and it is stored. -/
theorem contains_iff (store : MemoryStore) (name : String) :
    store.shelf.contains name = .ok true ↔
      isTemplateName name = true ∧ (store.stored? name).isSome := by
  cases allowed : isTemplateName name with
  | true => simp [contains_of_isTemplateName allowed, Fields.contains, stored?]
  | false =>
    obtain ⟨rejection, refused⟩ := checkName_of_refused allowed
    have modified : store.shelf.modified name = .error (.rejected rejection) := by
      simp only [shelf, look, refused]
      rfl
    simp [Shelf.contains, modified, Except.map]

/-- Two stores with the same under a name answer alike when they are asked for the name. -/
theorem shelf_congr {other : MemoryStore} (same : other.stored? name = store.stored? name) :
    other.shelf.read name = store.shelf.read name ∧
      other.shelf.modified name = store.shelf.modified name := by
  simp only [stored?] at same
  have looked : other.look name = store.look name := by simp only [look, same]
  exact ⟨looked, congrArg (Except.map _) looked⟩

/-- A text is stored under an allowed name. -/
theorem write_of_isTemplateName (allowed : isTemplateName name = true) :
    (store.write name text).1 = .ok () := by
  simp only [write, insertAt, checkName_of_isTemplateName allowed]

/-- What is stored after a text was stored under an allowed name. -/
theorem stored?_write (allowed : isTemplateName name = true) (key : String) :
    (store.write name text).2.stored? key =
      if key = name then some ⟨text, store.clock + 1⟩ else store.stored? key := by
  simp only [write, insertAt, checkName_of_isTemplateName allowed, stored?, Fields.find?_insert]

/-- The names in a store after a text was stored under an allowed name. -/
theorem mem_names_write (allowed : isTemplateName name = true) {key : String} :
    key ∈ (store.write name text).2.templates.names ↔ key = name ∨ key ∈ store.templates.names := by
  simp only [write, insertAt, checkName_of_isTemplateName allowed, Fields.mem_names_insert]

end Names

instance : TemplateStore (StateM MemoryStore) where
  shelf := return (← get).shelf
  write name text := modifyGet fun store => store.write name text

end MemoryStore

end NoteTemplate
