import NoteTemplate.Proofs.Session

/-!
# Validation is sound

Every stored template has a report, also when it or anything it names forms a circle. If
the report is valid, the template renders for every context, and not as a fallback, unless
the rendering is aborted. A report says nothing about the patterns of dates, so a valid
template can hold one by which no moment can be written, and nothing else aborts its
rendering. The engine may have done anything on the store before the validation, and
anything between the validation and the rendering.
-/

namespace NoteTemplate

open Template.Attempt

/-- The validation of a stored template gives a report, and if the report is valid every
later rendering of the template gives a document that is no fallback, or is aborted by the
template itself or by one that it includes, directly or through others. -/
theorem validate_sound (store : MemoryStore) (limit capacity : Nat) (name : String)
    (stored : store.shelf.contains name = .ok true) (before : List EngineStep) :
    ∃ (report : Report) (after : Cache),
      (store.shelf.validate limit name).run
          (EngineStep.cacheAfter limit store (.ofCapacity capacity) before) =
        (.ok (some report), after) ∧
      (report.isValid = true → ∀ (between : List EngineStep) (context : Context),
        let answer := ((store.shelf.render limit name context).run
          (EngineStep.cacheAfter limit store after between)).1
        (∃ document : Document, answer = .ok (some document) ∧ document.isFallback = false) ∨
          answer = .error .aborted ∧ store.CanAbort name) := by
  obtain ⟨allowed, present⟩ := (store.contains_iff name).1 stored
  obtain ⟨source, found⟩ := Option.isSome_iff_exists.1 present
  have within := store.within_history
  obtain ⟨report, answers, sound⟩ := validate_answers within limit allowed found
  have coherent := EngineStep.cacheAfter_coherent within limit before _
    (Cache.coherent_ofCapacity store.history capacity)
  obtain ⟨answer, kept⟩ := answers _ coherent
  refine ⟨report, _, Prod.ext answer rfl, fun valid between context => ?_⟩
  have later := EngineStep.cacheAfter_coherent within limit between _ kept
  rcases sound valid context with ⟨_, rendered, document, rfl, proper⟩ | aborted
  · exact .inl ⟨document, (rendered _ later).1, proper⟩
  · exact .inr ⟨(aborted _ later).1, canAbort_of_aborted within (aborted _ later).1 later⟩

/-- A store with a template that includes another. -/
def listing : MemoryStore :=
  ⟨[("item", ⟨"- " ++ Template.tagText "name", 1⟩),
    ("list", ⟨Template.tagText "include \"item\"" ++ "!", 2⟩)], 2⟩

/-- The template that includes another is valid, and it renders. -/
theorem listing_validate :
    listing.shelf.contains "list" = .ok true ∧
    ∃ (report : Report) (after : Cache),
      (listing.shelf.validate 8 "list").run (.ofCapacity 4) = (.ok (some report), after) ∧
      report.isValid = true ∧
      ∃ document : Document,
        ((listing.shelf.render 8 "list" .empty).run after).1 = .ok (some document) ∧
        document.isFallback = false := by
  have stored : listing.shelf.contains "list" = .ok true := rfl
  obtain ⟨report, after, ran, sound⟩ := validate_sound listing 8 4 "list" stored []
  have judged : ((listing.shelf.validate 8 "list").run (.ofCapacity 4)).1.toOption.join.map
      Report.isValid = some true := by decide +kernel
  have valid : report.isValid = true := by
    rw [show (listing.shelf.validate 8 "list").run (.ofCapacity 4) = _ from ran] at judged
    exact Option.some.inj judged
  refine ⟨stored, report, after, ran, valid, ?_⟩
  rcases sound valid [] .empty with rendered | ⟨aborted, -⟩
  · exact rendered
  · have succeeds : ((listing.shelf.render 8 "list" .empty).run
        ((listing.shelf.validate 8 "list").run (.ofCapacity 4)).2).1.isOk = true := by
      decide +kernel
    rw [show (listing.shelf.validate 8 "list").run (.ofCapacity 4) = _ from ran] at succeeds
    rw [show ((listing.shelf.render 8 "list" .empty).run after).1 = _ from aborted] at succeeds
    cases succeeds

/-- A store with a template that writes a date by a pattern which is for reading only. -/
def unwritableDate : MemoryStore :=
  ⟨[("note", ⟨Template.tagText "date_format(day, \"%#z\")", 1⟩)], 1⟩

/-- The template is valid, and it renders where the date is none, but not where it is one. -/
example :
    let validated := (unwritableDate.shelf.validate 8 "note").run (.ofCapacity 4)
    let renders := fun context =>
      ((unwritableDate.shelf.render 8 "note" context).run validated.2).1.isOk
    validated.1.toOption.join.map Report.isValid = some true ∧ renders .empty = true ∧
      renders (Context.empty.insert "day" (.moment .epoch)) = false := by
  decide +kernel

end NoteTemplate
