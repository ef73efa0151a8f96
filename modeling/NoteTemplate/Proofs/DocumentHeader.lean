import NoteTemplate.Proofs.ReadHeader

/-!
# Headers of rendered documents

A template that writes a header of sound fields gives a document with these fields: putting blank
lines in order leaves the header at its place, the cut finds both of its ends, and the reading
takes the fields for what they are (`header_ofText_tidy`).
-/

namespace NoteTemplate

open Template (collapseBlankLines)
open Yaml (plainValue? unifyBreaks)

namespace WrittenValue

/-- Whether a value can be read; of words only an integer that is too large cannot. -/
def isReadable : WrittenValue → Bool
  | .word text => (plainValue? text).isSome
  | _ => true

/-- A readable value has a meaning. -/
theorem isSome_json? {value : WrittenValue} (readable : value.isReadable = true) :
    value.json?.isSome = true := by
  cases value with
  | word text => exact readable
  | quoted text => rfl
  | noItems => rfl
  | items texts => rfl

/-- A change of the texts between double quotes keeps what can be read. -/
theorem isReadable_map (change : List Char → List Char) (value : WrittenValue) :
    (value.map change).isReadable = value.isReadable := by
  cases value <;> rfl

end WrittenValue

namespace WrittenField

/-- What a field gives when it is read. -/
def entry (field : WrittenField) : String × Json :=
  (String.ofList field.key, field.value.json?.getD .null)

/-- Readable fields are read as their entries. -/
theorem mapM_named? {fields : List WrittenField}
    (readable : ∀ field ∈ fields, field.value.isReadable = true) :
    fields.mapM named? = some (fields.map entry) := by
  induction fields with
  | nil => rfl
  | cons field rest ih =>
    have later := ih fun one member => readable one (List.mem_cons_of_mem _ member)
    obtain ⟨value, meaning⟩ := Option.isSome_iff_exists.1
      (WrittenValue.isSome_json? (readable field List.mem_cons_self))
    have here : field.named? = some field.entry := by
      rw [named?, entry, meaning]
      rfl
    rw [List.mapM_cons, here, later]
    rfl

/-- A change of the texts between double quotes keeps what can be read. -/
theorem readable_map {fields : List WrittenField} (change : List Char → List Char)
    (readable : ∀ field ∈ fields, field.value.isReadable = true) :
    ∀ field ∈ fields.map (·.map change), field.value.isReadable = true := by
  intro field member
  obtain ⟨old, within, rfl⟩ := List.mem_map.1 member
  have same : (old.map change).value.isReadable = old.value.isReadable :=
    WrittenValue.isReadable_map change old.value
  rw [same]
  exact readable old within

/-- A field as it is found behind the two changes between a template and the reading. -/
def settled (field : WrittenField) : WrittenField := (field.map collapseBlankLines).map unifyBreaks

end WrittenField

/-- A header of sound and readable fields gives their entries. -/
theorem headerFields_headerText {fields : List WrittenField} (some : fields ≠ [])
    (sound : ∀ field ∈ fields, field.Sound)
    (readable : ∀ field ∈ fields, field.value.isReadable = true) :
    headerFields (String.ofList (headerText fields)) =
      .ok (Fields.ofList ((fields.map (·.map unifyBreaks)).map WrittenField.entry)) := by
  have named := WrittenField.mapM_named? (WrittenField.readable_map unifyBreaks readable)
  rw [headerFields, Yaml.read?_headerText some sound, named]
  rfl

/-- No blank lines stand in front of a text that starts with a character that is no white space. -/
theorem dropBlankLines_of_startsBlack {text : List Char} (black : StartsBlack text) :
    (Template.dropBlankLines text).2 = text := by
  rw [Template.dropBlankLines, Template.dropBlankLinesFrom, dropBlankLine?_of_startsBlack black]

/-- Behind a line of hyphens, a text that starts with a character that is no white space is put in
order by itself, and so is one behind an empty line. -/
theorem collapseBlankLines_hyphens {rest : List Char} :
    (StartsBlack rest →
      collapseBlankLines ("---\n".toList ++ rest) = "---\n".toList ++ collapseBlankLines rest) ∧
    (StartsBlack rest →
      collapseBlankLines ("---\n\n".toList ++ rest) =
        "---\n\n".toList ++ collapseBlankLines rest) := by
  have whole : ∀ c ∈ "---".toList, isLineEnd c = false := isLineEnd_of_all (by decide)
  have hyphens := keepsLines_collapseBlankLines.within whole
  constructor
  · intro black
    have feed := keepsLines_collapseBlankLines.feed_of_none (dropBlankLine?_of_startsBlack black)
    exact (hyphens ('\n' :: rest)).trans (congrArg ("---".toList ++ ·) feed)
  · intro black
    have feeds := keepsLines_collapseBlankLines.feed_feed black
    exact (hyphens ('\n' :: '\n' :: rest)).trans (congrArg ("---".toList ++ ·) feeds)

/-- A text that starts with a header of sound and readable fields has these fields behind the
tidying, whatever stands behind the header. -/
theorem header_ofText_tidy {fields : List WrittenField} (some : fields ≠ [])
    (sound : ∀ field ∈ fields, field.Sound)
    (readable : ∀ field ∈ fields, field.value.isReadable = true) {rest : List Char}
    (black : StartsBlack rest) :
    (Split.ofText (Template.tidy (String.ofList
      ("---\n".toList ++ (headerText fields ++ ("---\n\n".toList ++ rest)))))).header =
        Fields.ofList ((fields.map WrittenField.settled).map WrittenField.entry) := by
  have hyphens : StartsBlack ("---\n\n".toList ++ rest) := by
    intro c first
    cases first
    decide
  have inner : StartsBlack (headerText fields ++ ("---\n\n".toList ++ rest)) :=
    startsBlack_headerText sound hyphens
  have collapsed : collapseBlankLines
      ("---\n".toList ++ (headerText fields ++ ("---\n\n".toList ++ rest))) =
        "---\n".toList ++ (headerText (fields.map (·.map collapseBlankLines)) ++
          ("---\n".toList ++ '\n' :: collapseBlankLines rest)) := by
    rw [collapseBlankLines_hyphens.1 inner,
      keepsLines_collapseBlankLines.headerText sound hyphens, collapseBlankLines_hyphens.2 black]
    rfl
  have front : StartsBlack ("---\n".toList ++
      (headerText (fields.map (·.map collapseBlankLines)) ++
        ("---\n".toList ++ '\n' :: collapseBlankLines rest))) := by
    intro c first
    cases first
    decide
  have kept := keepsLines_collapseBlankLines.soundFields sound
  have nonempty : fields.map (·.map collapseBlankLines) ≠ [] := by simpa using some
  have read := headerFields_headerText nonempty kept
    (WrittenField.readable_map collapseBlankLines readable)
  have cut := headerBlock?_headerText nonempty kept ('\n' :: collapseBlankLines rest)
  have tidied : (Template.tidy (String.ofList
      ("---\n".toList ++ (headerText fields ++ ("---\n\n".toList ++ rest))))).toList =
        "---\n".toList ++ (headerText (fields.map (·.map collapseBlankLines)) ++
          ("---\n".toList ++ '\n' :: collapseBlankLines rest)) := by
    rw [Template.tidy, String.toList_ofList, String.toList_ofList, Template.tidied, collapsed,
      dropBlankLines_of_startsBlack front]
  have settled : (fields.map (·.map collapseBlankLines)).map (·.map unifyBreaks) =
      fields.map WrittenField.settled :=
    List.map_map
  rw [Split.ofText_of_fields (tidied ▸ cut) read, settled]

end NoteTemplate
