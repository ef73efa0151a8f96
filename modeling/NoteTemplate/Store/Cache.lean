import NoteTemplate.Store.Recent
import NoteTemplate.Store.Shelf
import NoteTemplate.Template.Warning

/-!
# The cache of templates

Texts and prepared templates are remembered with the stamps they were made from. A
prepared template depends on a chain of stored ones, some of which may be missing, and
counts only as long as all of them are what they were. Hits and misses of prepared
templates are counted.
-/

namespace NoteTemplate

open Template (Compiled)

/-- A name with the stamp that its template has; none if there is no template. -/
abbrev NameStamp := String × Option Stamp

/-- A prepared template with what it was made from. -/
structure CachedTemplate where
  /-- The names that were looked up, with their stamps. -/
  stamps : List NameStamp
  /-- The template. -/
  template : Compiled

/-- The cache. -/
structure Cache where
  /-- How many entries of either kind are kept; at least one. -/
  limit : Nat
  /-- The texts. -/
  sources : Recent Source := []
  /-- The prepared templates. -/
  compiled : Recent CachedTemplate := []
  /-- How often a prepared template was found. -/
  hits : Nat := 0
  /-- How often none was found, or none that still counts. -/
  misses : Nat := 0

namespace Cache

/-- The number of entries that are kept unless it is set otherwise. -/
def defaultCapacity : Nat := 128

/-- A cache without entries. -/
def ofCapacity (capacity : Nat) : Cache := { limit := max 1 capacity }

/-- The text of a template with the given stamp. -/
def source? (cache : Cache) (name : String) (modified : Stamp) : Option String :=
  ((Recent.find? name cache.sources).filter (·.modified = modified)).map Source.text

/-- Remembers a text. -/
def storeSource (cache : Cache) (name : String) (source : Source) : Cache :=
  { cache with sources := Recent.store cache.limit name source cache.sources }

/-- Remembers a prepared template. -/
def storeCompiled (cache : Cache) (name : String) (cached : CachedTemplate) : Cache :=
  { cache with compiled := Recent.store cache.limit name cached cache.compiled }

/-- Forgets what is remembered under a name. -/
def invalidate (cache : Cache) (name : String) : Cache :=
  { cache with
    sources := Recent.erase name cache.sources, compiled := Recent.erase name cache.compiled }

/-- Forgets all entries. The counts go on. -/
def clear (cache : Cache) : Cache := { cache with sources := [], compiled := [] }

/-- The prepared template of a name, if its stamps pass a test. One that does not is
forgotten. -/
def lookup (cache : Cache) (name : String) (isCurrent : List NameStamp → Bool) :
    Option Compiled × Cache :=
  match Recent.find? name cache.compiled with
  | some cached =>
    if isCurrent cached.stamps then (some cached.template, { cache with hits := cache.hits + 1 })
    else (none, { cache with misses := cache.misses + 1 }.invalidate name)
  | none => (none, { cache with misses := cache.misses + 1 })

/-- The counts of a cache on one line. -/
def summary (cache : Cache) : String :=
  "CacheStats \x7b hits: " ++ toString cache.hits ++ ", misses: " ++ toString cache.misses ++
    ", sources: " ++ toString cache.sources.length ++ ", compiled: " ++
    toString cache.compiled.length ++ " \x7d"

end Cache

end NoteTemplate
