import NoteTemplate.Json.Equality
import NoteTemplate.Note.Message
import NoteTemplate.Proofs.BuiltInTemplates
import NoteTemplate.Proofs.ShownText
import NoteTemplate.Proofs.WrittenWords

/-!
# Headers of notes of messages

What the header part of each built-in template shows for a message: the fields of
`NoteKind.fields`, between lines of hyphens (`NoteKind.header_shown`). Where the texts between
double quotes can be quoted as they are, these fields are sound (`NoteKind.sound_fields`), and the
header that is read from them has the type of the kind and no folder (`NoteKind.find?_header`).
-/

namespace NoteTemplate

open Calendar (Moment write_year)
open Number (isDigit_of_mem_padded)
open Template (Attempt Fragment Shows)

namespace NoteKind

/-- The category of an analysis, unless it is blank. -/
def categories (analysis : Analysis) : List String :=
  if Text.isBlankText analysis.category then [] else [analysis.category]

/-- The texts of an analysis that the template puts between double quotes. -/
def quotedTexts (analysis : Analysis) : NoteKind → List String
  | idea => categories analysis ++ analysis.tags
  | meeting => categories analysis
  | task => analysis.tags
  | daily => []

section Bindings

variable (now : Moment) (message : Message) (analysis : Option Analysis)

/-- The scope in which a note is rendered. -/
def scope : Scope := ⟨noteContext now message analysis .empty, []⟩

/-- What the names for a note are bound to. -/
def bindings : List (String × Value) :=
  timeBindings now ++ message.bindings ++
    ("ai_processed", .bool analysis.isSome) :: (analysis.getD {}).bindings

/-- A name leads to the last thing that it is bound to. -/
theorem lookup_scope (name : String) (single : Template.isName name = true) :
    (scope now message analysis).lookup name =
      ((bindings now message analysis).reverse.find? (·.1 = name)).map Prod.snd := by
  have none : ∀ context : Context, context.extend .empty = context := fun _ => rfl
  have collected : ∀ named : List (String × Value),
      (Context.ofList named).get? name = (named.reverse.find? (·.1 = name)).map Prod.snd :=
    Fields.find?_ofList name
  rw [scope, Template.lookup_name _ single, noteContext, none, collected, bindings]

/-- What the names in the headers lead to. -/
structure IsBound (lookup : Lookup) : Prop where
  /-- The timestamp. -/
  stamp : lookup "date_iso" = some (.string (Calendar.format Calendar.stampItems now))
  /-- The day. -/
  day : lookup "date_ymd" = some (.string (Calendar.format Calendar.dayItems now))
  /-- The time at which the note is made. -/
  moment : lookup "current_date" = some (.moment now)
  /-- Whether there is an analysis. -/
  processed : lookup "ai_processed" = some (.bool analysis.isSome)
  /-- The category. -/
  category : lookup "ai_category" = some (.string (analysis.getD {}).category)
  /-- The tags. -/
  tags : lookup "ai_tags" = some (Value.ofTexts (analysis.getD {}).tags)
  /-- The confidence. -/
  confidence : lookup "ai_confidence" = some (.float (analysis.getD {}).confidence)

/-- The names in the headers are bound for every message. -/
theorem isBound_scope : IsBound now analysis (scope now message analysis).lookup := by
  constructor
  all_goals
    refine (lookup_scope now message analysis _ (by decide +kernel)).trans ?_
    simp [bindings, timeBindings, Message.bindings, Analysis.bindings]

end Bindings

section Fields

variable (now : Moment) (analysis : Option Analysis)

/-- The pattern of the month in the tag of a note for one day. -/
def monthItems : List Calendar.Item :=
  Calendar.separated '-' [Calendar.zeroPadded .year, Calendar.zeroPadded .month]

/-- The items of the list of tags. -/
def tags (kind : NoteKind) : List String :=
  match kind with
  | daily => [kind.noteType, Calendar.format monthItems now]
  | _ => kind.noteType :: kind.quotedTexts (analysis.getD {})

/-- The fields of the header. -/
def fields (kind : NoteKind) : List WrittenField :=
  let type : WrittenField := ⟨"type".toList, .word kind.noteType.toList, false⟩
  let created : WrittenField :=
    ⟨"created".toList, .word (Calendar.format Calendar.stampItems now).toList, false⟩
  let date : WrittenField :=
    ⟨"date".toList, .word (Calendar.format Calendar.dayItems now).toList, false⟩
  let tags : WrittenField :=
    ⟨"tags".toList, .items ((kind.tags now analysis).map String.toList), false⟩
  let processed (isSpaced : Bool) : WrittenField :=
    ⟨"ai_processed".toList, .word (Value.bool analysis.isSome).display.toList, isSpaced⟩
  match kind with
  | idea =>
    [type, created, tags, processed true] ++ analysis.toList.map fun given =>
      ⟨"ai_confidence".toList, .word (Value.numberText given.confidence), true⟩
  | meeting => [type, date, tags, processed false, ⟨"participants".toList, .noItems, false⟩]
  | task =>
    [type, created, tags, processed false, ⟨"status".toList, .word "todo".toList, false⟩,
      ⟨"due".toList, .quoted [], false⟩]
  | daily => [type, date, tags]

/-- What stands behind the header and an empty line. -/
def title : NoteKind → String
  | meeting => "# Meeting Notes - "
  | _ => "# "

end Fields

section Shown

variable {σ : Type} {insert : Scope → String → Attempt σ Fragment} {scope : Scope}

/-- The text of an item. -/
def itemText (text : String) : List Char := '\n' :: (WrittenValue.itemStart ++ text.toList ++ ['"'])

/-- The texts of items, each with what stands around it. -/
theorem itemText_eq : itemText =
    fun text => '\n' :: (' ' :: ' ' :: '-' :: ' ' :: '"' :: (text.toList ++ ['"'])) := rfl

/-- An item shows the text that its path leads to. -/
theorem item_shown {path text : String} (found : scope.lookup path = some (.string text)) :
    Shows insert scope (itemNodes path) (itemText text) := by
  have shown : Shows insert scope (itemNodes path) _ :=
    (Shows.literal "\n  - \"").cons ((Shows.value found).cons (Shows.literal "\""))
  simpa [itemNodes, itemText, WrittenValue.itemStart, Value.display] using shown

/-- The categories of an analysis are shown as items. -/
theorem category_shown (analysis : Analysis)
    (found : scope.lookup "ai_category" = some (.string analysis.category)) :
    Shows insert scope [.choice [("ai_category", itemNodes "ai_category")] none]
      ((categories analysis).flatMap itemText) := by
  have isPath : Template.isPathWord "ai_category".toList = true := by decide +kernel
  have item : Shows insert scope (itemNodes "ai_category") (itemText analysis.category) :=
    item_shown found
  have shown := Shows.choice isPath found item
  have same :
      (if (Value.string analysis.category).isTruthy then itemText analysis.category else []) =
      (categories analysis).flatMap itemText := by
    rw [Value.isTruthy, categories]
    cases Text.isBlankText analysis.category <;> simp
  rwa [same] at shown

/-- The tags of an analysis are shown as items. -/
theorem tags_shown {texts : List String}
    (found : scope.lookup "ai_tags" = some (Value.ofTexts texts)) :
    Shows insert scope [.each "ai_tags" (itemNodes "@item")] (texts.flatMap itemText) := by
  have starts : ∀ text, (itemText text).head? = some '\n' := fun _ => rfl
  exact Shows.each found starts fun text index =>
    item_shown (Template.lookup_item scope text index)

/-- The call in the header of a note for one day shows the month. -/
theorem month_called (now : Moment) {lookup : Lookup}
    (found : lookup "current_date" = some (.moment now)) :
    Template.call lookup "date_format" "current_date, \"%Y-%m\"" =
      .ok (Calendar.format monthItems now) := by
  have arguments : Template.readArguments "current_date, \"%Y-%m\"".toList =
      [⟨"current_date".toList, false⟩, ⟨"%Y-%m".toList, true⟩] := by decide +kernel
  have parts : Calendar.parts? "%Y-%m".toList = some (monthItems.map .item) := by decide +kernel
  have items : Calendar.items? (monthItems.map .item) = some monthItems := rfl
  have value : (Template.Argument.value lookup ⟨"current_date".toList, false⟩) = .moment now := by
    rw [Template.Argument.value, String.ofList_toList, found]
    rfl
  have function : Template.function? "date_format" = some (2, Template.dateFormat) := rfl
  have enough : ¬ ([⟨"current_date".toList, false⟩, ⟨"%Y-%m".toList, true⟩] :
      List Template.Argument).length < 2 := Nat.lt_irrefl 2
  have formatted : Template.dateFormat
      ⟨[⟨"current_date".toList, false⟩, ⟨"%Y-%m".toList, true⟩], lookup⟩ =
        .ok (Calendar.format monthItems now) := by
    have pattern : Template.Arguments.literal
        ⟨[⟨"current_date".toList, false⟩, ⟨"%Y-%m".toList, true⟩], lookup⟩ 1 =
          "%Y-%m".toList := rfl
    have first : Template.Arguments.value
        ⟨[⟨"current_date".toList, false⟩, ⟨"%Y-%m".toList, true⟩], lookup⟩ 0 = .moment now := value
    rw [Template.dateFormat, pattern, parts, first]
    dsimp only [Value.moment?]
    rw [items]
  rw [Template.call, function]
  dsimp only
  rw [arguments, if_neg enough, formatted]

end Shown

section Headers

variable {σ : Type} (insert : Scope → String → Attempt σ Fragment) {now : Moment}
  {analysis : Option Analysis} {scope : Scope}

/-- What the nodes of a header have to show: its fields between lines of hyphens, and the start of
the title. -/
def ShowsHeader (scope : Scope) (now : Moment) (analysis : Option Analysis) (kind : NoteKind) :
    Prop :=
  Shows insert scope kind.headerNodes
    ("---\n".toList ++ (headerText (kind.fields now analysis) ++
      ("---\n\n".toList ++ kind.title.toList)))

/-- The header of a note for an idea is shown. -/
theorem idea_shown (bound : IsBound now analysis scope.lookup) :
    idea.ShowsHeader insert scope now analysis := by
  have isPath : Template.isPathWord "ai_processed".toList = true := by decide +kernel
  have shown : Shows insert scope idea.headerNodes _ :=
    (Shows.literal "---\ntype: idea\ncreated: ").cons <| (Shows.value bound.stamp).cons <|
    (Shows.literal "\ntags:\n  - \"idea\"").cons <| (category_shown _ bound.category).cons <|
    (tags_shown bound.tags).cons <| (Shows.literal "\nai_processed: ").cons <|
    (Shows.value bound.processed).cons <| (Shows.literal "\n").cons <|
    (Shows.choice isPath bound.processed <| (Shows.literal "\nai_confidence: ").cons <|
      (Shows.value bound.confidence).cons (Shows.literal "\n")).cons <|
    Shows.literal "\n---\n\n# "
  refine shown.of_eq ?_
  have created : (Value.string (Calendar.format Calendar.stampItems now)).display =
      Calendar.format Calendar.stampItems now := rfl
  simp only [fields, NoteKind.tags, quotedTexts, created]
  generalize Calendar.format Calendar.stampItems now = created
  cases analysis with
  | none =>
    generalize (none : Option Analysis).getD {} = found
    have falsehood : (Value.bool (none : Option Analysis).isSome).isTruthy = false := rfl
    rw [falsehood]
    simp [headerText, WrittenField.text, WrittenValue.text, WrittenField.ending,
      WrittenValue.itemStart, itemText_eq, List.flatMap_map, title, noteType]
  | some given =>
    have truth : (Value.bool (some given).isSome).isTruthy = true := rfl
    have found : (some given).getD {} = given := rfl
    have number : (Value.float given.confidence).display.toList =
        Value.numberText given.confidence :=
      String.toList_ofList
    rw [truth, found, number]
    simp [headerText, WrittenField.text, WrittenValue.text, WrittenField.ending,
      WrittenValue.itemStart, itemText_eq, List.flatMap_map, title, noteType]

/-- The header of a note for a meeting is shown. -/
theorem meeting_shown (bound : IsBound now analysis scope.lookup) :
    meeting.ShowsHeader insert scope now analysis := by
  have shown : Shows insert scope meeting.headerNodes _ :=
    (Shows.literal "---\ntype: meeting\ndate: ").cons <| (Shows.value bound.day).cons <|
    (Shows.literal "\ntags:\n  - \"meeting\"").cons <| (category_shown _ bound.category).cons <|
    (Shows.literal "\nai_processed: ").cons <| (Shows.value bound.processed).cons <|
    Shows.literal "\nparticipants: []\n---\n\n# Meeting Notes - "
  refine shown.of_eq ?_
  have date : (Value.string (Calendar.format Calendar.dayItems now)).display =
      Calendar.format Calendar.dayItems now := rfl
  simp only [fields, NoteKind.tags, quotedTexts, date]
  generalize Calendar.format Calendar.dayItems now = date
  generalize analysis.getD {} = found
  generalize (Value.bool analysis.isSome).display = truth
  simp [headerText, WrittenField.text, WrittenValue.text, WrittenField.ending,
    WrittenValue.itemStart, itemText_eq, List.flatMap_map, title, noteType]

/-- The header of a note for a task is shown. -/
theorem task_shown (bound : IsBound now analysis scope.lookup) :
    task.ShowsHeader insert scope now analysis := by
  have shown : Shows insert scope task.headerNodes _ :=
    (Shows.literal "---\ntype: ").cons <| (Shows.block "type" (Shows.literal "task")).cons <|
    (Shows.literal "\ncreated: ").cons <| (Shows.value bound.stamp).cons <|
    (Shows.literal "\ntags:\n  - \"").cons <| (Shows.block "tag" (Shows.literal "task")).cons <|
    (Shows.literal "\"").cons <| (tags_shown bound.tags).cons <|
    (Shows.literal "\nai_processed: ").cons <| (Shows.value bound.processed).cons <|
    (Shows.literal "\n").cons <|
    (Shows.block "meta" (Shows.literal "status: todo\ndue: \"\"")).cons <|
    Shows.literal "\n---\n\n# "
  refine shown.of_eq ?_
  have created : (Value.string (Calendar.format Calendar.stampItems now)).display =
      Calendar.format Calendar.stampItems now := rfl
  simp only [fields, NoteKind.tags, quotedTexts, created]
  generalize Calendar.format Calendar.stampItems now = created
  generalize analysis.getD {} = found
  generalize (Value.bool analysis.isSome).display = truth
  simp [headerText, WrittenField.text, WrittenValue.text, WrittenField.ending,
    WrittenValue.itemStart, itemText_eq, List.flatMap_map, title, noteType]

/-- The header of a note for one day is shown. -/
theorem daily_shown (bound : IsBound now analysis scope.lookup) :
    daily.ShowsHeader insert scope now analysis := by
  have shown : Shows insert scope daily.headerNodes _ :=
    (Shows.literal "---\ntype: daily\ndate: ").cons <| (Shows.value bound.day).cons <|
    (Shows.literal "\ntags:\n  - \"daily\"\n  - \"").cons <|
    (Shows.call 6 (month_called now bound.moment)).cons <| Shows.literal "\"\n---\n\n# "
  refine shown.of_eq ?_
  have date : (Value.string (Calendar.format Calendar.dayItems now)).display =
      Calendar.format Calendar.dayItems now := rfl
  simp only [fields, NoteKind.tags, date]
  generalize Calendar.format Calendar.dayItems now = date
  generalize Calendar.format monthItems now = month
  simp [headerText, WrittenField.text, WrittenValue.text, WrittenField.ending,
    WrittenValue.itemStart, title, noteType]

/-- The header of a note is shown where its names are bound. -/
theorem header_shown (bound : IsBound now analysis scope.lookup) (kind : NoteKind) :
    kind.ShowsHeader insert scope now analysis := by
  cases kind with
  | idea => exact idea_shown insert bound
  | meeting => exact meeting_shown insert bound
  | task => exact task_shown insert bound
  | daily => exact daily_shown insert bound

end Headers

section Soundness

/-- What the texts and the number of an analysis have to be for a header to stand: the texts that
the template puts between double quotes can be quoted as they are, and the number that it writes
can be read. -/
structure Stands (kind : NoteKind) (analysis : Option Analysis) : Prop where
  /-- The texts can be quoted. -/
  quotable : ∀ text ∈ kind.quotedTexts (analysis.getD {}), isQuotable text.toList = true
  /-- The number can be read. -/
  readable : kind = idea → ∀ given ∈ analysis,
    (WrittenValue.word (Value.numberText given.confidence)).isReadable = true

/-- A word that starts with a letter is the key of a sound field with a sound value. -/
theorem sound_field {key : String} {value : WrittenValue} {isSpaced : Bool}
    (isKey : (isWord key.toList && key.toList.head?.all Char.isAlphanum &&
      decide (key.toList.length ≤ 1024)) = true) (sound : value.Sound) :
    WrittenField.Sound ⟨key.toList, value, isSpaced⟩ := by
  simp only [Bool.and_eq_true, decide_eq_true_eq] at isKey
  exact ⟨isKey.1.1, isKey.1.2, isKey.2, sound⟩

variable (now : Moment) {analysis : Option Analysis} {kind : NoteKind}

/-- The text of a month holds letters of words only. -/
theorem letters_month :
    ∀ c ∈ (Calendar.format monthItems now).toList, isWordLetter c = true := by
  have cut : (Calendar.format monthItems now).toList =
      Calendar.padded 4 now.date.year ++ '-' :: Calendar.padded 2 now.date.month := by
    rw [Calendar.format, String.toList_ofList, ← write_year now]
    show _ ++ (['-'] ++ (Calendar.padded 2 now.date.month ++ [])) = _
    simp
  intro c member
  rw [cut] at member
  rcases List.mem_append.1 member with digit | behind
  · exact isWordLetter_of_isDigit (isDigit_of_mem_padded digit)
  · rcases List.mem_cons.1 behind with rfl | digit
    · decide
    · exact isWordLetter_of_isDigit (isDigit_of_mem_padded digit)

/-- The list of tags is sound where the header stands. -/
theorem sound_tags (stands : kind.Stands analysis) :
    (WrittenValue.items ((kind.tags now analysis).map String.toList)).Sound := by
  have type : isQuotable kind.noteType.toList = true := by cases kind <;> decide +kernel
  have month : isQuotable (Calendar.format monthItems now).toList = true :=
    isQuotable_of_letters (letters_month now)
  have each : ∀ text ∈ kind.tags now analysis, isQuotable text.toList = true := by
    intro text member
    unfold NoteKind.tags at member
    split at member
    · rcases List.mem_cons.1 member with rfl | last
      · exact type
      · rw [List.mem_singleton.1 last]
        exact month
    · rcases List.mem_cons.1 member with rfl | quoted
      · exact type
      · exact stands.quotable text quoted
  have some : kind.tags now analysis ≠ [] := by cases kind <;> exact List.cons_ne_nil _ _
  refine ⟨by simpa using some, fun text member => ?_⟩
  obtain ⟨one, within, rfl⟩ := List.mem_map.1 member
  exact each one within

/-- A sound key with a word that can be read is sound and can be read. -/
theorem sound_word {key : String} {word : List Char} {isSpaced : Bool}
    (isKey : (isWord key.toList && key.toList.head?.all Char.isAlphanum &&
      decide (key.toList.length ≤ 1024)) = true)
    (sound : isWord word = true ∧ (WrittenValue.word word).isReadable = true) :
    WrittenField.Sound ⟨key.toList, .word word, isSpaced⟩ ∧
      (WrittenValue.word word).isReadable = true :=
  ⟨sound_field isKey sound.1, sound.2⟩

/-- The fields of the header are sound and readable where it stands. -/
theorem sound_fields (stands : kind.Stands analysis) :
    ∀ field ∈ kind.fields now analysis, field.Sound ∧ field.value.isReadable = true := by
  have truth : isWord (Value.bool analysis.isSome).display.toList = true ∧
      (WrittenValue.word (Value.bool analysis.isSome).display.toList).isReadable = true := by
    cases analysis.isSome <;> decide +kernel
  have named : isWord kind.noteType.toList = true ∧
      (WrittenValue.word kind.noteType.toList).isReadable = true := by
    cases kind <;> decide +kernel
  have type := @sound_word "type" _ false (by decide +kernel) named
  have processed := fun isSpaced => @sound_word "ai_processed" _ isSpaced (by decide +kernel) truth
  have created := @sound_word "created" _ false (by decide +kernel) (word_stamp now)
  have date := @sound_word "date" _ false (by decide +kernel) (word_day now)
  have tags := @sound_field "tags" _ false (by decide +kernel) (sound_tags now stands)
  cases kind with
  | idea =>
    have confidence (given : Analysis) (within : given ∈ analysis) :=
      @sound_word "ai_confidence" (Value.numberText given.confidence) true (by decide +kernel)
        ⟨isWord_numberText given.confidence, stands.readable rfl given within⟩
    intro field member
    simp only [fields, List.mem_append, List.mem_cons, List.not_mem_nil, or_false, List.mem_map,
      Option.mem_toList] at member
    rcases member with (rfl | rfl | rfl | rfl) | ⟨given, within, rfl⟩
    · exact type
    · exact created
    · exact ⟨tags, rfl⟩
    · exact processed true
    · exact confidence given within
  | meeting =>
    have participants : WrittenField.Sound ⟨"participants".toList, .noItems, false⟩ :=
      sound_field (by decide +kernel) trivial
    intro field member
    simp only [fields, List.mem_cons, List.not_mem_nil, or_false] at member
    rcases member with rfl | rfl | rfl | rfl | rfl
    · exact type
    · exact date
    · exact ⟨tags, rfl⟩
    · exact processed false
    · exact ⟨participants, rfl⟩
  | task =>
    have status := @sound_word "status" "todo".toList false (by decide +kernel) (by decide +kernel)
    have due : WrittenField.Sound ⟨"due".toList, .quoted [], false⟩ :=
      sound_field (by decide +kernel) (show isQuotable [] = true from rfl)
    intro field member
    simp only [fields, List.mem_cons, List.not_mem_nil, or_false] at member
    rcases member with rfl | rfl | rfl | rfl | rfl | rfl
    · exact type
    · exact created
    · exact ⟨tags, rfl⟩
    · exact processed false
    · exact status
    · exact ⟨due, rfl⟩
  | daily =>
    intro field member
    simp only [fields, List.mem_cons, List.not_mem_nil, or_false] at member
    rcases member with rfl | rfl | rfl
    · exact type
    · exact date
    · exact ⟨tags, rfl⟩

end Soundness

section Entries

variable (now : Moment) (analysis : Option Analysis) (kind : NoteKind)

/-- What the header of the document holds. -/
def header : Fields Json :=
  Fields.ofList (((kind.fields now analysis).map WrittenField.settled).map WrittenField.entry)

/-- The header holds the type, and names no folder. -/
theorem find?_header :
    Fields.find? "type" (kind.header now analysis) = some (.string kind.noteType) ∧
      Fields.find? "obsidian_folder" (kind.header now analysis) = none := by
  have type : ∀ kind : NoteKind, (Yaml.plainValue? kind.noteType.toList).getD .null =
      .string kind.noteType := by
    intro kind
    cases kind <;> decide +kernel
  rw [header, Fields.find?_ofList, Fields.find?_ofList]
  cases kind with
  | idea =>
    cases analysis <;> simp [fields, WrittenField.entry, WrittenField.settled, WrittenField.map,
      WrittenValue.map, WrittenValue.json?, type]
  | meeting =>
    simp [fields, WrittenField.entry, WrittenField.settled, WrittenField.map, WrittenValue.map,
      WrittenValue.json?, type]
  | task =>
    simp [fields, WrittenField.entry, WrittenField.settled, WrittenField.map, WrittenValue.map,
      WrittenValue.json?, type]
  | daily =>
    simp [fields, WrittenField.entry, WrittenField.settled, WrittenField.map, WrittenValue.map,
      WrittenValue.json?, type]

end Entries

end NoteKind

end NoteTemplate
