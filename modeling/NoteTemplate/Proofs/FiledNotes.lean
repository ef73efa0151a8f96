import NoteTemplate.Proofs.CompletedHeader
import NoteTemplate.Proofs.NoteHeaders
import NoteTemplate.Proofs.Session

/-!
# Notes filed by their own type

Notes of messages that built-in templates make are filed by the type that the template writes, for
every message and at every time, as long as the texts of the analysis stand where the template puts
them between double quotes (`assembleMessage_filed`). The templates write these texts as they are:
a double quote, a backslash, a character that YAML does not allow or a line that separates documents
makes the header unreadable or changes its fields.
-/

namespace NoteTemplate

open Calendar (Moment)
open Template (Attempt Compiled Fragment Node)
open Template.Attempt

namespace Template

/-- Nodes that include nothing and abort nothing render to a fragment. -/
theorem renderBody_of_includeNothing {σ : Type} (insert : Scope → String → Attempt σ Fragment)
    {nodes : List Node} (nothing : IncludeNothing (Node.flattenAll nodes))
    (abortless : ∀ node ∈ Node.flattenAll nodes, ¬ node.MayAbort) (scope : Scope) :
    ∃ fragment, renderBody insert scope nodes = pure fragment := by
  have insertions : InsertionsRelated (KnownAlike fun _ => False) [] insert insert
      (Node.flattenAll nodes) := fun name line member => absurd member (nothing name line)
  have aborts : AbortsPermitted (fun _ => False) (Node.flattenAll nodes) := abortless
  obtain ⟨answer, fits, known, -⟩ := renderBody_related composes_knownAlike nodes (untouched_nil _)
    aborts insertions scope scope (.refl scope)
  cases answer with
  | ok fragment => exact ⟨fragment, known⟩
  | error failure => exact (fits failure rfl).elim

end Template

namespace NoteKind

variable (kind : NoteKind) (now : Moment) (message : Message) (analysis : Option Analysis)

/-- The template renders to its header and something behind the start of the title. -/
theorem body_renders {σ : Type} (insert : Scope → String → Attempt σ Fragment) :
    ∃ nodes fragment rest, Template.parse kind.text = .ok nodes ∧
      Template.renderBody insert (scope now message analysis) nodes = pure fragment ∧
      fragment.text = String.ofList ("---\n".toList ++ (headerText (kind.fields now analysis) ++
        ("---\n\n".toList ++ (kind.title.toList ++ rest)))) := by
  obtain ⟨rest, parsed, nothing, abortless⟩ := kind.parse_text
  obtain ⟨tail, shown⟩ := Template.renderBody_of_includeNothing insert nothing abortless
    (scope now message analysis)
  have header := header_shown insert (isBound_scope now message analysis) kind
  let whole := (Fragment.ofText (String.ofList ("---\n".toList ++
    (headerText (kind.fields now analysis) ++
      ("---\n\n".toList ++ kind.title.toList))))).append tail
  refine ⟨_, whole, tail.text.toList, parsed, ?_, ?_⟩
  · rw [Template.renderBody_append, header, shown, pure_bind, pure_bind]
  · simp only [whole, Fragment.append, Fragment.ofText, String.ofList_append, String.append_assoc,
      String.ofList_toList]

variable {kind analysis}

/-- The document has the header of the kind where it stands. -/
theorem header_document (stands : kind.Stands analysis) (rest : List Char) :
    (Split.ofText (Template.tidy (String.ofList ("---\n".toList ++
      (headerText (kind.fields now analysis) ++
        ("---\n\n".toList ++ (kind.title.toList ++ rest))))))).header =
      kind.header now analysis := by
  have sound := sound_fields now stands
  have some : kind.fields now analysis ≠ [] := by cases kind <;> exact List.cons_ne_nil _ _
  have black : StartsBlack (kind.title.toList ++ rest) := by
    intro c first
    have sign : c = '#' := by cases kind <;> exact (Option.some.inj first).symm
    rw [sign]
    decide
  exact header_ofText_tidy some (fun field member => (sound field member).1)
    (fun field member => (sound field member).2) black

/-- A template name can be the name of the template. -/
theorem isTemplateName_template (kind : NoteKind) : isTemplateName kind.template = true := by
  cases kind <;> decide +kernel

/-- The template renders to a document with the header of the kind where it stands. -/
theorem render_answers {history : History} (within : installed.Within history) (limit : Nat)
    (stands : kind.Stands analysis) :
    ∃ document : Document, document.header = kind.header now analysis ∧
      Answers (Cache.Coherent history) (installed.shelf.render limit kind.template
        (noteContext now message analysis .empty)) (.ok (some document)) := by
  have allowed := isTemplateName_template kind
  obtain ⟨answer, prepares, loads⟩ := load_answers within allowed
  rw [prepares.functional (installed_prepares kind)] at loads
  obtain ⟨nodes, fragment, rest, parsed, shown, text⟩ := body_renders kind now message analysis
    (Template.insertInto installed.shelf.fetch limit limit [kind.template])
  have proper := ne_empty_of_isTemplateName allowed
  have body : Answers (Cache.Coherent history)
      (Template.renderBody (Template.insertInto installed.shelf.fetch limit limit [kind.template])
        ⟨noteContext now message analysis .empty, []⟩ nodes) (.ok fragment) := by
    have known : Template.renderBody
        (Template.insertInto installed.shelf.fetch limit limit [kind.template])
        ⟨noteContext now message analysis .empty, []⟩ nodes = pure fragment := shown
    rw [known]
    exact answers_pure fragment
  have tree : ∀ name text, (Compiled.ofText name text []).parsed = Template.parse text :=
    fun _ _ => rfl
  have named : ∀ name text, (Compiled.ofText name text []).name = name := fun _ _ => rfl
  have rendered := render_of_body (named _ _) proper ((tree _ _).trans parsed) loads body
  refine ⟨_, ?_, rendered⟩
  show (Split.ofText (Template.tidy fragment.text)).header = _
  rw [text]
  exact header_document now stands rest

end NoteKind

/-- Notes of messages are filed by the type of their template. From the built-in templates as they
are installed in an empty store, with a cache in any state that operations of an engine lead to,
the note of any message at any time carries the type of its kind and lies in the folder of that
type, if the header stands with the texts of the analysis. -/
theorem assembleMessage_filed (kind : NoteKind) (limit capacity : Nat) (before : List EngineStep)
    (now : Moment) (message : Message) (analysis : Option Analysis)
    (stands : kind.Stands analysis) :
    ∃ note, ((NoteKind.installed.shelf.assembleMessage limit kind.template message analysis .empty
        now).run (EngineStep.cacheAfter limit NoteKind.installed (.ofCapacity capacity) before)).1 =
          .ok (some note) ∧
      Header.text? note.header "type" = some kind.noteType ∧
      note.folder = VaultFolder.ofNoteType kind.noteType := by
  have within := NoteKind.installed.within_history
  have coherent := EngineStep.cacheAfter_coherent within limit before _
    (Cache.coherent_ofCapacity _ capacity)
  obtain ⟨document, header, rendered⟩ := NoteKind.render_answers now message within limit stands
  obtain ⟨type, noFolder⟩ := kind.find?_header now analysis
  let note := Note.ofDocument kind.template document (noteContext now message analysis .empty) now
  have assembled : Answers (Cache.Coherent NoteKind.installed.history)
      (NoteKind.installed.shelf.assembleMessage limit kind.template message analysis .empty now)
      (.ok (some note)) := rendered.bind (answers_pure _)
  refine ⟨note, (assembled _ coherent).1, ?_, ?_⟩
  · show Header.text? (Header.prepared now document.header) "type" = _
    rw [Header.text?, Header.find?_prepared now _ (by decide), header, type]
    rfl
  · show Header.folder document.header = _
    rw [Header.folder, Header.text?, Header.text?, header, noFolder, type]
    rfl

/-- An analysis with texts that mean much to a reader of YAML where they stand without quotes. -/
def yamlLikeAnalysis : Analysis where
  summary := "---"
  tags := ["type: idea", "# none", "- 'x'\n\n\n  ---y", "&a *a !t |", Template.tagText "@item"]
  category := " a:\r\n....\n\t- [b, @c"
  confidence := 0.85

/-- Notes of all kinds are filed by their types, although the texts of the analysis look like
YAML. -/
theorem yamlLikeNotes_filed :
    (∀ kind : NoteKind, kind.Stands (some yamlLikeAnalysis)) ∧
      ∀ kind : NoteKind, ∃ note,
        ((NoteKind.installed.shelf.assembleMessage 8 kind.template {} (some yamlLikeAnalysis) .empty
          .epoch).run (EngineStep.cacheAfter 8 NoteKind.installed (.ofCapacity 1)
            [.load "idea_note", .validate kind.template])).1 = .ok (some note) ∧
          Header.text? note.header "type" = some kind.noteType ∧
          note.folder = VaultFolder.ofNoteType kind.noteType := by
  have number : (WrittenValue.word (Value.numberText yamlLikeAnalysis.confidence)).isReadable =
      true := by decide +kernel
  have stands : ∀ kind : NoteKind, kind.Stands (some yamlLikeAnalysis) := by
    intro kind
    refine ⟨?_, fun _ given within => Option.some.inj within ▸ number⟩
    cases kind <;> decide +kernel
  exact ⟨stands, fun kind =>
    assembleMessage_filed kind 8 1 _ .epoch {} (some yamlLikeAnalysis) (stands kind)⟩

end NoteTemplate
