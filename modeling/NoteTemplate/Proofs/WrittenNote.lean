import NoteTemplate.Json.Equality
import NoteTemplate.Note
import NoteTemplate.Proofs.HeaderLines

/-!
# A written note reads back

A note is written as a header between two lines of hyphens, and its body behind them. The
header of a note is never empty, so these lines are always there, and since no line of the
written header is a delimiter, the first one behind it is the one that was written: the cut
gives the header and the body back, whatever the body holds (`markdown_readsBack`). That YAML
gives a mapping back is relied on (`Yaml.ReadsBack`).
-/

namespace NoteTemplate

/-- What is relied on of the writing and the reading of a mapping as YAML. -/
structure Yaml.ReadsBack (fields : Fields Json) : Prop where
  /-- The written text ends in a line break. -/
  ended : (Yaml.write fields).toList.getLast? = some '\n'
  /-- None of its lines is a header delimiter. -/
  inner : ∀ line ∈ Text.lines (Yaml.write fields).toList, isHeaderDelimiter line = false
  /-- The text reads as the mapping. -/
  read : Yaml.read? (Yaml.write fields) = some (.object fields)

/-- A mapping has a field behind an insertion. -/
theorem Fields.insert_ne_nil {α : Type} (name : String) (thing : α) (fields : Fields α) :
    insert name thing fields ≠ [] := by
  cases fields with
  | nil => exact List.cons_ne_nil _ _
  | cons head rest =>
    unfold insert
    split
    · exact List.cons_ne_nil _ _
    · split <;> exact List.cons_ne_nil _ _

namespace Header

/-- Dropping tags leaves a field. -/
theorem withTags_ne_nil {header : Fields Json} (filled : header ≠ []) (name : String) :
    withTags name header ≠ [] := by
  unfold withTags
  split
  · exact Fields.insert_ne_nil _ _ _
  · exact filled

/-- The header of a note is never empty, since it says when the note was made. -/
theorem prepared_ne_nil (now : Calendar.Moment) (header : Fields Json) :
    prepared now header ≠ [] := by
  have times : withTimes now (withFolder header) ≠ [] := Fields.insert_ne_nil _ _ _
  exact withTags_ne_nil (withTags_ne_nil times "tags") "ai_tags"

end Header

/-- A note of any document reads back from its text: the cut into header and body gives its
header, its body and no fault, if YAML gives back what a mapping that is not empty is written
as. -/
theorem markdown_readsBack (template : String) (document : Document) (context : Context)
    (now : Calendar.Moment)
    (faithful : (Note.ofDocument template document context now).header ≠ [] →
      Yaml.ReadsBack (Note.ofDocument template document context now).header) :
    Split.ofText (Note.ofDocument template document context now).markdown =
      ⟨(Note.ofDocument template document context now).header,
        (Note.ofDocument template document context now).body, none⟩ := by
  have filled : (Note.ofDocument template document context now).header ≠ [] :=
    Header.prepared_ne_nil now document.header
  generalize Note.ofDocument template document context now = note at filled faithful ⊢
  obtain ⟨ended, inner, read⟩ := faithful filled
  have written : note.markdown.toList =
      "---\n".toList ++
        ((Yaml.write note.header).toList ++ ("---\n".toList ++ note.body.toList)) := by
    unfold Note.markdown
    rw [if_neg (by simpa using filled)]
    simp only [String.toList_append, List.append_assoc]
  have found : headerBlock? note.markdown.toList =
      some ((Yaml.write note.header).toList, note.body.toList) := by
    rw [written]
    exact headerBlock?_written ended inner _
  have fields : headerFields (String.ofList (Yaml.write note.header).toList) = .ok note.header := by
    unfold headerFields
    rw [String.ofList_toList, read]
  rw [Split.ofText_of_fields found fields, String.ofList_toList]

/-- A document whose body looks like a header of its own, with a tag that says nothing and a time
that is no text. -/
def quotingDocument : Document :=
  { template := "idea"
    text := ""
    header := [("created", .int 20240305), ("tags", .array [.string "x: y", .null]),
      ("title", .string "one\ntwo"), ("type", .string "idea")]
    body := "---\ntype: task\n---\n---\nend"
    warnings := []
    isFallback := false }

/-- The note of the document reads back. -/
theorem quotingDocument_readsBack :
    let now := Calendar.Moment.epoch
    let note := Note.ofDocument "idea" quotingDocument .empty now
    (note.header ≠ [] → Yaml.ReadsBack note.header) ∧
      Split.ofText note.markdown = ⟨note.header, note.body, none⟩ := by
  intro now note
  have faithful : note.header ≠ [] → Yaml.ReadsBack note.header := fun _ =>
    ⟨by decide +kernel, by decide +kernel, by decide +kernel⟩
  exact ⟨faithful, markdown_readsBack "idea" quotingDocument .empty now faithful⟩

end NoteTemplate
