import NoteTemplate.Proofs.Resolution
import NoteTemplate.Proofs.UnwritablePatterns
import NoteTemplate.Store.BuiltIn
import NoteTemplate.Template.Equality
import NoteTemplate.Validation

/-!
# The built-in templates as they are installed

Installed in an empty store, the built-in templates for the notes of messages are loaded with their
texts, the one for tasks with the layout filled in (`installed_prepares`). Each of them starts with
the nodes that make up the header of its notes and includes nothing (`parse_text`). The texts are
some thousand characters long, so they are cut and read as lists of characters.
-/

namespace NoteTemplate

open Template (Compiled Node)

/-- The kinds of notes that built-in templates make of messages. -/
inductive NoteKind where
  | idea
  | meeting
  | task
  | daily

namespace NoteKind

/-- The name of the template. -/
def template : NoteKind → String
  | idea => "idea_note"
  | meeting => "meeting_note"
  | task => "task_note"
  | daily => "daily_note"

/-- The type that the template writes. -/
def noteType : NoteKind → String
  | idea => "idea"
  | meeting => "meeting"
  | task => "task"
  | daily => "daily"

/-- The nodes of an item with the text that a path leads to. -/
def itemNodes (path : String) : List Node := [.text "\n  - \"", .variable path, .text "\""]

/-- The nodes of the template down to the end of the header. -/
def headerNodes : NoteKind → List Node
  | idea =>
    [.text "---\ntype: idea\ncreated: ", .variable "date_iso", .text "\ntags:\n  - \"idea\"",
      .choice [("ai_category", itemNodes "ai_category")] none, .each "ai_tags" (itemNodes "@item"),
      .text "\nai_processed: ", .variable "ai_processed", .text "\n",
      .choice [("ai_processed",
        [.text "\nai_confidence: ", .variable "ai_confidence", .text "\n"])] none,
      .text "\n---\n\n# "]
  | meeting =>
    [.text "---\ntype: meeting\ndate: ", .variable "date_ymd", .text "\ntags:\n  - \"meeting\"",
      .choice [("ai_category", itemNodes "ai_category")] none,
      .text "\nai_processed: ", .variable "ai_processed",
      .text "\nparticipants: []\n---\n\n# Meeting Notes - "]
  | task =>
    [.text "---\ntype: ", .block "type" [.text "task"], .text "\ncreated: ", .variable "date_iso",
      .text "\ntags:\n  - \"", .block "tag" [.text "task"], .text "\"",
      .each "ai_tags" (itemNodes "@item"), .text "\nai_processed: ", .variable "ai_processed",
      .text "\n", .block "meta" [.text "status: todo\ndue: \"\""], .text "\n---\n\n# "]
  | daily =>
    [.text "---\ntype: daily\ndate: ", .variable "date_ymd",
      .text "\ntags:\n  - \"daily\"\n  - \"",
      .call "date_format" "current_date, \"%Y-%m\"" 6, .text "\"\n---\n\n# "]

/-- The layout with the blocks that the template for tasks fills in. -/
def taskText : String :=
  String.ofList (Template.merge BuiltIn.baseNote.toList
    ((Template.blockBodies? (Template.withoutParentTags BuiltIn.taskNote.toList)).getD []))

/-- The text of the template with its parent filled in. -/
def text : NoteKind → String
  | idea => BuiltIn.ideaNote
  | meeting => BuiltIn.meetingNote
  | task => taskText
  | daily => BuiltIn.dailyNote

/-- The characters of lines, each with the line feed that ends it. -/
theorem toList_ofLines (lines : List String) :
    (BuiltIn.ofLines lines).toList = lines.flatMap fun line => line.toList ++ ['\n'] := by
  induction lines with
  | nil => rfl
  | cons line rest ih =>
    rw [BuiltIn.ofLines, List.map_cons, String.join_cons, String.toList_append] at *
    rw [ih, List.flatMap_cons, String.toList_append]
    rfl

/-- The characters of a tag. -/
theorem toList_tagText (content : String) :
    (Template.tagText content).toList = Template.opening ++ content.toList ++ Template.closing := by
  simp [Template.tagText]

/-- Whether nodes start with the nodes of a header, and behind them include nothing and abort
nothing. -/
def startsWithHeader (kind : NoteKind) (nodes : List Node) : Bool :=
  let rest := nodes.drop kind.headerNodes.length
  nodes = kind.headerNodes ++ rest &&
    (Node.flattenAll rest).all fun node => (inclusion? node).isNone && !decide node.MayAbort

/-- The template starts with the nodes of its header. -/
theorem startsWithHeader_text (kind : NoteKind) :
    (Template.parse kind.text).toOption.any kind.startsWithHeader = true := by
  have cut : ∀ text : List Char, text = kind.text.toList →
      Template.parse kind.text =
        Template.parseFrom {} (Template.placeFrom 1 (Template.pieces text)) :=
    fun text same => same ▸ rfl
  rw [cut _ rfl]
  cases kind with
  | idea =>
    simp only [text, BuiltIn.ideaNote, toList_ofLines, List.flatMap_cons, List.flatMap_nil,
      String.toList_append, toList_tagText, String.reduceToList]
    decide +kernel
  | meeting =>
    simp only [text, BuiltIn.meetingNote, toList_ofLines, List.flatMap_cons, List.flatMap_nil,
      String.toList_append, toList_tagText, String.reduceToList]
    decide +kernel
  | task =>
    simp only [text, taskText, BuiltIn.baseNote, BuiltIn.taskNote, toList_ofLines,
      List.flatMap_cons, List.flatMap_nil, String.toList_append, toList_tagText,
      String.reduceToList, String.toList_ofList]
    decide +kernel
  | daily =>
    simp only [text, BuiltIn.dailyNote, toList_ofLines, List.flatMap_cons, List.flatMap_nil,
      String.toList_append, toList_tagText, String.reduceToList]
    decide +kernel

/-- Behind the nodes of its header the template includes nothing, and nothing there can abort a
rendering. -/
theorem parse_text (kind : NoteKind) : ∃ rest, Template.parse kind.text =
    .ok (kind.headerNodes ++ rest) ∧ Template.IncludeNothing (Node.flattenAll rest) ∧
      ∀ node ∈ Node.flattenAll rest, ¬ node.MayAbort := by
  have checked := kind.startsWithHeader_text
  cases parsed : Template.parse kind.text with
  | error error =>
    rw [parsed] at checked
    cases checked
  | ok nodes =>
    rw [parsed] at checked
    simp only [Except.toOption, Option.any_some, startsWithHeader, Bool.and_eq_true,
      decide_eq_true_eq, List.all_eq_true, Bool.not_eq_true', decide_eq_false_iff_not] at checked
    obtain ⟨front, nothing⟩ := checked
    refine ⟨nodes.drop kind.headerNodes.length, congrArg Except.ok front,
      fun name line member => ?_, fun node member => (nothing node member).2⟩
    have none := (nothing _ member).1
    cases none

section Installed

/-- An empty store in which the built-in templates are installed. -/
def installed : MemoryStore :=
  ((BuiltIn.install : StateM MemoryStore (Except Failure (List String))).run {}).2

/-- The templates of the store. -/
theorem installed_templates :
    installed.templates =
      [("base_note", ⟨BuiltIn.baseNote, 1⟩), ("daily_note", ⟨BuiltIn.dailyNote, 2⟩),
        ("idea_note", ⟨BuiltIn.ideaNote, 3⟩), ("meeting_note", ⟨BuiltIn.meetingNote, 4⟩),
        ("task_note", ⟨BuiltIn.taskNote, 5⟩)] :=
  rfl

/-- The parents that the templates name. -/
theorem parentName?_texts :
    Template.parentName? BuiltIn.baseNote.toList = none ∧
      Template.parentName? BuiltIn.dailyNote.toList = none ∧
      Template.parentName? BuiltIn.ideaNote.toList = none ∧
      Template.parentName? BuiltIn.meetingNote.toList = none ∧
      Template.parentName? BuiltIn.taskNote.toList = some "base_note" := by
  simp only [BuiltIn.baseNote, BuiltIn.dailyNote, BuiltIn.ideaNote, BuiltIn.meetingNote,
    BuiltIn.taskNote, toList_ofLines, List.flatMap_cons, List.flatMap_nil, String.toList_append,
    toList_tagText, String.reduceToList]
  decide +kernel

/-- A text whose blocks are balanced fills the text above in. -/
theorem compiled?_fillIn {name parent text : String} {source : Source} {above : Resolved}
    {bodies : Fields (List Char)}
    (defined : Template.blockBodies? (Template.withoutParentTags source.text.toList) = some bodies)
    (upper : above.text = some text) :
    (fillIn name parent source above).compiled? name =
      some (Compiled.ofText name (String.ofList (Template.merge text.toList bodies))
        above.warnings) := by
  simp only [fillIn, defined, upper, Resolved.compiled?, Option.map_some]

/-- The blocks of the template for tasks are balanced. -/
theorem blockBodies?_taskNote :
    ∃ bodies, Template.blockBodies? (Template.withoutParentTags BuiltIn.taskNote.toList) =
      some bodies := by
  apply Option.isSome_iff_exists.1
  simp only [BuiltIn.taskNote, toList_ofLines, List.flatMap_cons, List.flatMap_nil,
    String.toList_append, toList_tagText, String.reduceToList]
  decide +kernel

/-- The layout is filled in for tasks. -/
theorem fillIn_taskNote (stamp : Stamp) {above : Resolved}
    (upper : above.text = some BuiltIn.baseNote) :
    (fillIn "task_note" "base_note" ⟨BuiltIn.taskNote, stamp⟩ above).compiled? "task_note" =
      some (Compiled.ofText "task_note" taskText above.warnings) := by
  obtain ⟨bodies, defined⟩ := blockBodies?_taskNote
  rw [taskText, defined, Option.getD_some]
  exact compiled?_fillIn defined upper

/-- The template of a kind is loaded with its text, without warnings. -/
theorem installed_prepares (kind : NoteKind) :
    installed.Prepares kind.template (.ok (some (Compiled.ofText kind.template kind.text []))) := by
  obtain ⟨base, daily, idea, meeting, task⟩ := parentName?_texts
  have stored : ∀ name, installed.stored? name = Fields.find? name
      [("base_note", ⟨BuiltIn.baseNote, 1⟩), ("daily_note", ⟨BuiltIn.dailyNote, 2⟩),
        ("idea_note", ⟨BuiltIn.ideaNote, 3⟩), ("meeting_note", ⟨BuiltIn.meetingNote, 4⟩),
        ("task_note", ⟨BuiltIn.taskNote, 5⟩)] := by
    intro name
    rw [MemoryStore.stored?, installed_templates]
  cases kind with
  | idea =>
    have found : installed.stored? "idea_note" = some ⟨BuiltIn.ideaNote, 3⟩ := by
      simp [stored, Fields.find?]
    exact ⟨.ok (.ofRoot "idea_note" ⟨BuiltIn.ideaNote, 3⟩), .root found idea, rfl⟩
  | meeting =>
    have found : installed.stored? "meeting_note" = some ⟨BuiltIn.meetingNote, 4⟩ := by
      simp [stored, Fields.find?]
    exact ⟨.ok (.ofRoot "meeting_note" ⟨BuiltIn.meetingNote, 4⟩), .root found meeting, rfl⟩
  | daily =>
    have found : installed.stored? "daily_note" = some ⟨BuiltIn.dailyNote, 2⟩ := by
      simp [stored, Fields.find?]
    exact ⟨.ok (.ofRoot "daily_note" ⟨BuiltIn.dailyNote, 2⟩), .root found daily, rfl⟩
  | task =>
    have layout : installed.stored? "base_note" = some ⟨BuiltIn.baseNote, 1⟩ := by
      simp [stored, Fields.find?]
    have found : installed.stored? "task_note" = some ⟨BuiltIn.taskNote, 5⟩ := by
      simp [stored, Fields.find?]
    have upper : Resolves installed.stored? ["task_note"] "base_note"
        (.ok (.ofRoot "base_note" ⟨BuiltIn.baseNote, 1⟩)) := .root layout base
    let resolved := fillIn "task_note" "base_note" ⟨BuiltIn.taskNote, 5⟩
      (.ofRoot "base_note" ⟨BuiltIn.baseNote, 1⟩)
    have filled : Resolves installed.stored? [] "task_note" (.ok resolved) :=
      .filled found task (by decide) (by decide +kernel) upper
    have prepared : resolved.compiled? "task_note" =
        some (Compiled.ofText "task_note" taskText []) := fillIn_taskNote 5 rfl
    exact ⟨_, filled, congrArg Except.ok prepared.symm⟩

end Installed

end NoteKind

end NoteTemplate
