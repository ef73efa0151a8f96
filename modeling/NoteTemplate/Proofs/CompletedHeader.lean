import NoteTemplate.Note.Header

/-!
# Complete headers

Completing a header fills in the folder and the times that are missing and drops the tags that say
nothing; it keeps what is said otherwise (`Header.Completes`). A header that says all this is not
changed by completing it at any later time (`Header.IsComplete.prepared_eq`), and what completing
gives is such a header (`Header.prepared_completes`).
-/

namespace NoteTemplate

open Calendar (Moment)
open Text (IsGap IsTrimmed exists_trim)

/-! ## Fields in their place -/

namespace Fields

variable {α : Type} {name other : String} {thing new : α} {fields : Fields α}

/-- A thing stands under a name where putting it there changes nothing. -/
def Holds (name : String) (thing : α) (fields : Fields α) : Prop :=
  insert name thing fields = fields

/-- A thing that stands under a name is found there. -/
theorem Holds.found (holds : Holds name thing fields) : find? name fields = some thing := by
  rw [← holds, find?_insert, if_pos rfl]

/-- A thing that was put under a name stands there. -/
theorem holds_insert (name : String) (thing : α) (fields : Fields α) :
    Holds name thing (insert name thing fields) := by
  induction fields with
  | nil => rw [Holds, insert, insert, if_neg (String.lt_irrefl name), if_pos rfl]
  | cons head rest ih =>
    obtain ⟨key, old⟩ := head
    by_cases before : name < key
    · rw [Holds, insert, if_pos before, insert, if_neg (String.lt_irrefl name), if_pos rfl]
    by_cases here : name = key
    · rw [Holds, insert, if_neg before, if_pos here, insert, if_neg (String.lt_irrefl name),
        if_pos rfl]
    · unfold Holds at ih ⊢
      simp only [insert, if_neg before, if_neg here, ih]

/-- A thing stays where it stands when another is put under another name. -/
theorem Holds.keep (holds : Holds name thing fields) (apart : name ≠ other) :
    Holds name thing (insert other new fields) := by
  induction fields with
  | nil => cases holds
  | cons head rest ih =>
    obtain ⟨key, old⟩ := head
    have notBefore : ¬ name < key := by
      intro before
      have longer := congrArg List.length holds
      simp [insert, before] at longer
    -- What is put further in front does not touch the rest.
    have front : ∀ {first : String}, first < key → name ≠ first →
        Holds name thing ((first, new) :: (key, old) :: rest) := by
      intro first before different
      have behind : ¬ name < first := fun less => notBefore (String.lt_trans less before)
      unfold Holds at holds ⊢
      rw [insert, if_neg behind, if_neg different, holds]
    by_cases before : other < key
    · rw [insert, if_pos before]
      exact front before apart
    by_cases here : name = key
    · subst here
      have same : thing = old := by
        have found := holds.found
        rw [find?, if_pos rfl] at found
        exact (Option.some.inj found).symm
      rw [insert, if_neg before, if_neg (Ne.symm apart), Holds, insert, if_neg notBefore,
        if_pos rfl, same]
    have later : Holds name thing rest := by
      unfold Holds at holds ⊢
      rw [insert, if_neg notBefore, if_neg here] at holds
      exact (List.cons.inj holds).2
    by_cases taken : other = key
    · rw [insert, if_neg before, if_pos taken, Holds, insert, if_neg (taken ▸ notBefore),
        if_neg apart, later]
    · rw [insert, if_neg before, if_neg taken, Holds, insert, if_neg notBefore, if_neg here,
        ih later]

end Fields

/-! ## Folders -/

namespace VaultFolder

/-- A text names a folder when it is the path of the folder, with white space around and slashes
behind it. -/
def Names (text : String) (folder : VaultFolder) : Prop :=
  ∃ before slashes behind, IsGap before ∧ (∀ c ∈ slashes, c = '/') ∧ IsGap behind ∧
    text.toList = before ++ ((folder.path.toList ++ slashes) ++ behind)

/-- Slashes at the back of a text are removed with those in front of them. -/
theorem withoutSlashes_append (text : List Char) {slashes : List Char}
    (all : ∀ c ∈ slashes, c = '/') : withoutSlashes (text ++ slashes) = withoutSlashes text := by
  have back : ∀ c ∈ slashes.reverse, decide (c = '/') = true :=
    fun c member => decide_eq_true (all c (List.mem_reverse.1 member))
  rw [withoutSlashes, List.reverse_append, List.dropWhile_append_of_pos back, withoutSlashes]

/-- What is removed at the back of a text are slashes. -/
theorem exists_withoutSlashes (text : List Char) :
    ∃ slashes, (∀ c ∈ slashes, c = '/') ∧ text = withoutSlashes text ++ slashes := by
  refine ⟨(text.reverse.takeWhile (· = '/')).reverse, ?_, ?_⟩
  · intro c member
    have passed := List.all_eq_true.1 List.all_takeWhile c (List.mem_reverse.1 member)
    exact of_decide_eq_true passed
  · rw [withoutSlashes, ← List.reverse_append, List.takeWhile_append_dropWhile,
      List.reverse_reverse]

/-- The path of a folder ends in no slash, and white space neither starts nor ends it. -/
theorem path_settled (folder : VaultFolder) :
    withoutSlashes folder.path.toList = folder.path.toList ∧ IsTrimmed folder.path.toList ∧
      folder.path.toList ≠ [] := by
  cases folder <;>
  · refine ⟨rfl, ⟨?_, ?_⟩, nofun⟩ <;>
    · rintro c ⟨⟩
      rfl

/-- The folder of a path is the one that the text names. -/
theorem ofPath?_eq_some_iff {text : String} {folder : VaultFolder} :
    ofPath? text = some folder ↔ Names text folder := by
  constructor
  · intro found
    have same : folder.path = String.ofList (withoutSlashes (Text.trim text.toList)) := by
      rw [ofPath?] at found
      have chosen := List.find?_some found
      exact of_decide_eq_true chosen
    obtain ⟨before, behind, front, back, -, whole⟩ := exists_trim text.toList
    obtain ⟨slashes, all, cut⟩ := exists_withoutSlashes (Text.trim text.toList)
    refine ⟨before, slashes, behind, front, all, back, ?_⟩
    rw [same, String.toList_ofList, ← cut]
    exact whole
  · rintro ⟨before, slashes, behind, front, all, back, whole⟩
    obtain ⟨settled, sharp, filled⟩ := path_settled folder
    have core : IsTrimmed (folder.path.toList ++ slashes) := by
      constructor
      · intro c member
        obtain ⟨d, rest, path⟩ := List.exists_cons_of_ne_nil filled
        rw [path] at member sharp
        exact sharp.start c member
      · intro c member
        rw [List.getLast?_append] at member
        cases last : slashes.getLast? with
        | none =>
          rw [last] at member
          exact sharp.stop c member
        | some d =>
          rw [last] at member
          obtain rfl : d = c := Option.some.inj member
          rw [all d (List.mem_of_getLast? last)]
          decide
    have some : folder.path.toList ++ slashes ≠ [] := fun none =>
      filled (List.append_eq_nil_iff.1 none).1
    have path : String.ofList (withoutSlashes (Text.trim text.toList)) = folder.path := by
      rw [whole, core.trim some front back, withoutSlashes_append _ all, settled,
        String.ofList_toList]
    rw [ofPath?, path]
    cases folder <;> decide

/-- The folder of a header with a text for it: the one that the text names, and the inbox if it
names none. -/
def IsNamedBy (folder : VaultFolder) (text : String) : Prop :=
  Names text folder ∨ folder = inbox ∧ ∀ other, ¬ Names text other

/-- The folder of a path, or else the inbox. -/
theorem isNamedBy_ofPath? (text : String) : ((ofPath? text).getD inbox).IsNamedBy text := by
  cases found : ofPath? text with
  | some folder => exact .inl (ofPath?_eq_some_iff.1 found)
  | none =>
    refine .inr ⟨rfl, fun other names => ?_⟩
    rw [ofPath?_eq_some_iff.2 names] at found
    cases found

/-- A folder is found by its path. -/
theorem ofPath?_path (folder : VaultFolder) : ofPath? folder.path = some folder := by
  refine ofPath?_eq_some_iff.2 ⟨[], [], [], ?_, ?_, ?_, ?_⟩ <;> simp [IsGap]

end VaultFolder

/-! ## Completing a header -/

namespace Header

variable {now : Moment} {header : Fields Json} {name other : String}

/-- An item of a list of tags that says nothing. -/
def IsMute (tag : Json) : Prop :=
  tag = .null ∨ ∃ text, tag = .string text ∧ ∀ c ∈ text.toList, Text.isBlank c = true

/-- An item that is kept is one that says something. -/
theorem isTag_eq_false_iff {tag : Json} : isTag tag = false ↔ IsMute tag := by
  cases tag <;> simp [isTag, IsMute, Text.isBlankText]

instance : DecidablePred IsMute := fun _ => decidable_of_iff _ isTag_eq_false_iff

/-- The items that are kept are all but those that say nothing. -/
theorem filter_isTag (tags : List Json) : tags.filter isTag = tags.filter (¬ IsMute ·) := by
  apply List.filter_congr
  intro tag _
  cases kept : isTag tag with
  | false => simp [isTag_eq_false_iff.1 kept]
  | true =>
    have loud : ¬ IsMute tag := fun mute => by
      rw [isTag_eq_false_iff.2 mute] at kept
      cases kept
    simp [loud]

/-- The names of the lists of tags. -/
def tagNames : List String := ["tags", "ai_tags"]

/-- A list of tags has those of its items that say something. -/
def keptTags : Json → Json
  | .array tags => .array (tags.filter isTag)
  | other => other

/-- Dropping tags changes one field. -/
theorem find?_withTags (name other : String) (header : Fields Json) :
    Fields.find? other (withTags name header) =
      if other = name then (Fields.find? name header).map keptTags
      else Fields.find? other header := by
  unfold withTags
  split
  · rename_i tags found
    rw [Fields.find?_insert, found]
    rfl
  · rename_i noList
    split
    · rename_i same
      rw [same]
      cases found : Fields.find? name header with
      | none => rfl
      | some json =>
        cases json with
        | array tags => exact absurd found (noList tags)
        | _ => rfl
    · rfl

/-- The text of the folder of a complete header. -/
def folderText (header : Fields Json) : String :=
  (text? header "obsidian_folder").getD (folder header).path

/-- Filling in the folder changes one field. -/
theorem find?_withFolder (other : String) (header : Fields Json) :
    Fields.find? other (withFolder header) =
      if other = "obsidian_folder" then some (.string (folderText header))
      else Fields.find? other header := by
  unfold withFolder folderText
  split
  · rename_i path found
    split
    · rename_i same
      obtain ⟨json, stored, text⟩ := Option.bind_eq_some_iff.1 found
      cases json with
      | string text' =>
        obtain rfl : text' = path := Option.some.inj text
        rw [same, stored, found]
        rfl
      | _ => cases text
    · rfl
  · rename_i missing
    rw [Fields.find?_insert, missing]
    rfl

/-- The text of the time of creation in a complete header. -/
def createdText (now : Moment) (header : Fields Json) : String :=
  (time? header "created").getD (Calendar.format Calendar.stampItems now)

/-- The text of the time of modification in a complete header. -/
def modifiedText (now : Moment) (header : Fields Json) : String :=
  (time? header "modified").getD (createdText now header)

/-- Filling in the times changes two fields. -/
theorem find?_withTimes (now : Moment) (other : String) (header : Fields Json) :
    Fields.find? other (withTimes now header) =
      if other = "modified" then some (.string (modifiedText now header))
      else if other = "created" then some (.string (createdText now header))
      else Fields.find? other header := by
  rw [withTimes, Fields.find?_insert, Fields.find?_insert]
  rfl

/-- The text of a time depends on its field alone. -/
theorem time?_congr {before after : Fields Json}
    (same : Fields.find? name before = Fields.find? name after) :
    time? before name = time? after name := by
  rw [time?, time?, same]

/-- The fields that completing a header fills in. -/
theorem find?_filled (now : Moment) (other : String) (header : Fields Json) :
    Fields.find? other (withTimes now (withFolder header)) =
      if other = "modified" then some (.string (modifiedText now header))
      else if other = "created" then some (.string (createdText now header))
      else if other = "obsidian_folder" then some (.string (folderText header))
      else Fields.find? other header := by
  have kept : ∀ name, name ≠ "obsidian_folder" →
      time? (withFolder header) name = time? header name := by
    intro name apart
    apply time?_congr
    rw [find?_withFolder, if_neg apart]
  have created : createdText now (withFolder header) = createdText now header := by
    rw [createdText, createdText, kept _ (by decide)]
  have modified : modifiedText now (withFolder header) = modifiedText now header := by
    rw [modifiedText, modifiedText, kept _ (by decide), created]
  rw [find?_withTimes, created, modified, find?_withFolder]

/-- The fields of a complete header. -/
theorem find?_completed (now : Moment) (other : String) (header : Fields Json) :
    Fields.find? other (prepared now header) =
      if other = "modified" then some (.string (modifiedText now header))
      else if other = "created" then some (.string (createdText now header))
      else if other = "obsidian_folder" then some (.string (folderText header))
      else if other ∈ tagNames then (Fields.find? other header).map keptTags
      else Fields.find? other header := by
  rw [prepared, find?_withTags, find?_withTags, find?_withTags, find?_filled, find?_filled,
    find?_filled]
  by_cases tags : other = "tags"
  · subst tags
    rfl
  by_cases aiTags : other = "ai_tags"
  · subst aiTags
    rfl
  have noList : other ∉ tagNames := by simp [tagNames, tags, aiTags]
  rw [if_neg aiTags, if_neg tags, if_neg noList]

/-- Completing a header leaves the fields alone that it does not fill in. -/
theorem find?_prepared (now : Moment) (header : Fields Json) {name : String}
    (other : name ∉ ["obsidian_folder", "created", "modified", "tags", "ai_tags"]) :
    Fields.find? name (prepared now header) = Fields.find? name header := by
  simp only [List.mem_cons, List.not_mem_nil, or_false, not_or] at other
  obtain ⟨noFolder, noCreated, noModified, noTags, noAiTags⟩ := other
  have noList : name ∉ tagNames := by simp [tagNames, noTags, noAiTags]
  rw [find?_completed, if_neg noModified, if_neg noCreated, if_neg noFolder, if_neg noList]

/-! ## Headers that are complete -/

/-- A header that says all that the header of a note has to say. -/
structure IsComplete (header : Fields Json) : Prop where
  /-- The folder is named. -/
  folder : ∃ path, Fields.find? "obsidian_folder" header = some (.string path)
  /-- The times are given. -/
  times : ∀ name ∈ ["created", "modified"], ∃ text, Fields.Holds name (.string text) header
  /-- Every tag says something. -/
  tags : ∀ name ∈ tagNames, ∀ tags, Fields.find? name header = some (.array tags) →
    Fields.Holds name (.array tags) header ∧ ∀ tag ∈ tags, isTag tag = true

/-- A complete header is not changed by completing it, whenever that is. -/
theorem IsComplete.prepared_eq (complete : IsComplete header) (later : Moment) :
    prepared later header = header := by
  have folder : withFolder header = header := by
    obtain ⟨path, found⟩ := complete.folder
    have text : text? header "obsidian_folder" = some path := by
      rw [text?, found]
      rfl
    rw [withFolder, text]
  have times : withTimes later header = header := by
    have given : ∀ {name text}, Fields.Holds name (.string text) header →
        time? header name = some text := by
      intro name text holds
      rw [time?, holds.found]
    obtain ⟨created, isCreated⟩ := complete.times "created" (by decide)
    obtain ⟨modified, isModified⟩ := complete.times "modified" (by decide)
    rw [withTimes, given isCreated, given isModified]
    dsimp only [Option.getD_some]
    rw [isCreated, isModified]
  have tags : ∀ name ∈ tagNames, withTags name header = header := by
    intro name isList
    unfold withTags
    split
    · rename_i tags found
      obtain ⟨holds, loud⟩ := complete.tags name isList tags found
      rw [List.filter_eq_self.2 loud, holds]
    · rfl
  rw [prepared, folder, times, tags "tags" (by decide), tags "ai_tags" (by decide)]

/-- Dropping tags keeps what stands under other names. -/
theorem holds_withTags {json : Json} (holds : Fields.Holds other json header)
    (apart : other ≠ name) : Fields.Holds other json (withTags name header) := by
  unfold withTags
  split
  · exact holds.keep apart
  · exact holds

/-- What is left of a list of tags says something. -/
theorem withTags_tags {tags : List Json}
    (found : Fields.find? name (withTags name header) = some (.array tags)) :
    Fields.Holds name (.array tags) (withTags name header) ∧ ∀ tag ∈ tags, isTag tag = true := by
  unfold withTags at found ⊢
  split at found
  · rw [Fields.find?_insert, if_pos rfl] at found
    cases found
    exact ⟨Fields.holds_insert _ _ _, fun tag member => (List.mem_filter.1 member).2⟩
  · rename_i noList
    exact absurd found (noList tags)

/-- Completing a header makes it complete. -/
theorem isComplete_prepared (now : Moment) (header : Fields Json) :
    IsComplete (prepared now header) := by
  constructor
  · refine ⟨folderText header, ?_⟩
    rw [find?_completed]
    rfl
  · have created : Fields.Holds "created" (.string (createdText now (withFolder header)))
        (withTimes now (withFolder header)) :=
      (Fields.holds_insert _ _ _).keep (by decide)
    have modified : Fields.Holds "modified" (.string (modifiedText now (withFolder header)))
        (withTimes now (withFolder header)) :=
      Fields.holds_insert _ _ _
    intro name member
    simp only [List.mem_cons, List.not_mem_nil, or_false] at member
    rcases member with rfl | rfl
    · exact ⟨_, holds_withTags (holds_withTags created (by decide)) (by decide)⟩
    · exact ⟨_, holds_withTags (holds_withTags modified (by decide)) (by decide)⟩
  · intro name member tags found
    simp only [tagNames, List.mem_cons, List.not_mem_nil, or_false] at member
    rcases member with rfl | rfl
    · have before : Fields.find? "tags" (withTags "tags" (withTimes now (withFolder header))) =
          some (.array tags) := by
        rw [prepared, find?_withTags, if_neg (by decide)] at found
        exact found
      obtain ⟨holds, loud⟩ := withTags_tags before
      exact ⟨holds_withTags holds (by decide), loud⟩
    · exact withTags_tags found

/-! ## What completing a header does -/

/-- The field of a time in a complete header, told by the field that the header had before and by
the text that takes the place of a missing one. -/
structure IsTimeOf (before after : Fields Json) (name missing : String) : Prop where
  /-- It is a text. -/
  text : ∃ text, Fields.find? name after = some (.string text)
  /-- A text is kept. -/
  kept : ∀ text, Fields.find? name before = some (.string text) →
    Fields.find? name after = some (.string text)
  /-- What is no text is written as JSON. -/
  written : ∀ json, Fields.find? name before = some json → json ≠ .null → json.string? = none →
    Fields.find? name after = some (.string json.compact)
  /-- Nothing counts as missing. -/
  filled : Fields.find? name before = none ∨ Fields.find? name before = some .null →
    Fields.find? name after = some (.string missing)

/-- The text that a time is given is that of a complete header. -/
theorem isTimeOf_of_found {before after : Fields Json} {name missing : String}
    (found : Fields.find? name after = some (.string ((time? before name).getD missing))) :
    IsTimeOf before after name missing := by
  constructor
  · exact ⟨_, found⟩
  · intro text given
    rw [found, time?, given]
    rfl
  · intro json given something noText
    rw [found, time?, given]
    cases json with
    | null => exact absurd rfl something
    | string text => cases noText
    | _ => rfl
  · rintro (absent | null)
    · rw [found, time?, absent]
      rfl
    · rw [found, time?, null]
      rfl

/-- A header with a folder is another one completed at a time. -/
structure Completes (now : Moment) (before after : Fields Json) (folder : VaultFolder) : Prop where
  /-- The time of creation is given, and is the time of completing if it was missing. -/
  created : IsTimeOf before after "created" (Calendar.format Calendar.stampItems now)
  /-- The time of modification is given, and is that of creation if it was missing. -/
  modified : ∃ created, Fields.find? "created" after = some (.string created) ∧
    IsTimeOf before after "modified" created
  /-- The folder is the one that is named. -/
  named : ∃ path, Fields.find? "obsidian_folder" after = some (.string path) ∧ folder.IsNamedBy path
  /-- The text that named it before is kept. -/
  kept : ∀ path, Fields.find? "obsidian_folder" before = some (.string path) →
    Fields.find? "obsidian_folder" after = some (.string path)
  /-- Where no text named it, the type suggests it, and its path is filled in. -/
  suggested : text? before "obsidian_folder" = none →
    folder = VaultFolder.ofNoteType ((text? before "type").getD "general") ∧
      Fields.find? "obsidian_folder" after = some (.string folder.path)
  /-- A list of tags has those of its items that say something, in their order. -/
  tags : ∀ name ∈ tagNames, ∀ tags, Fields.find? name before = some (.array tags) →
    Fields.find? name after = some (.array (tags.filter (¬ IsMute ·)))
  /-- All else is as it was. -/
  others : ∀ name, name ∉ ["created", "modified", "obsidian_folder"] →
    (∀ tags, name ∈ tagNames → Fields.find? name before ≠ some (.array tags)) →
      Fields.find? name after = Fields.find? name before
  /-- The fields are in the order of their names if they were before. -/
  sorted : Fields.Sorted before → Fields.Sorted after

/-- Completing a header keeps the order of its fields. -/
theorem sorted_prepared (now : Moment) {header : Fields Json} (sorted : Fields.Sorted header) :
    Fields.Sorted (prepared now header) := by
  have tags : ∀ (name : String) {header : Fields Json}, Fields.Sorted header →
      Fields.Sorted (withTags name header) := by
    intro name header sorted
    unfold withTags
    split
    · exact Fields.insert_sorted sorted
    · exact sorted
  have folder : Fields.Sorted (withFolder header) := by
    unfold withFolder
    split
    · exact sorted
    · exact Fields.insert_sorted sorted
  exact tags _ (tags _ (Fields.insert_sorted (Fields.insert_sorted folder)))

/-- The folder of a header is the one that the complete header names. -/
theorem isNamedBy_folderText (header : Fields Json) :
    (folder header).IsNamedBy (folderText header) := by
  unfold folderText folder
  cases text? header "obsidian_folder" with
  | some path => exact VaultFolder.isNamedBy_ofPath? path
  | none =>
    dsimp only [Option.getD_none]
    generalize VaultFolder.ofNoteType _ = suggested
    exact .inl (VaultFolder.ofPath?_eq_some_iff.1 suggested.ofPath?_path)

/-- The folder of a complete header is that of the header. -/
theorem folder_prepared (now : Moment) (header : Fields Json) :
    folder (prepared now header) = folder header := by
  have named : text? (prepared now header) "obsidian_folder" = some (folderText header) := by
    rw [text?, find?_completed]
    rfl
  rw [folder, named]
  unfold folderText folder
  cases text? header "obsidian_folder" with
  | some path => rfl
  | none =>
    dsimp only [Option.getD_none]
    rw [VaultFolder.ofPath?_path, Option.getD_some]

/-- The header of a note, with the folder of the note, is that of the document completed at the time
of the note; and completing it again at any other time changes neither the header nor the folder. -/
theorem prepared_completes (now : Moment) (header : Fields Json) :
    Completes now header (prepared now header) (folder header) ∧
      ∀ later, prepared later (prepared now header) = prepared now header ∧
        folder (prepared now header) = folder header := by
  have complete : Completes now header (prepared now header) (folder header) := by
    constructor
    · exact isTimeOf_of_found (find?_completed now "created" header)
    · exact ⟨_, find?_completed now "created" header,
        isTimeOf_of_found (find?_completed now "modified" header)⟩
    · exact ⟨_, find?_completed now "obsidian_folder" header, isNamedBy_folderText header⟩
    · intro path given
      have text : folderText header = path := by
        rw [folderText, text?, given]
        rfl
      rw [find?_completed now "obsidian_folder" header, ← text]
      rfl
    · intro unnamed
      have text : folderText header = (folder header).path := by
        rw [folderText, unnamed, Option.getD_none]
      refine ⟨by rw [folder, unnamed], ?_⟩
      rw [find?_completed now "obsidian_folder" header, ← text]
      rfl
    · intro name isList tags given
      have apart : ∀ name ∈ tagNames,
          name ≠ "modified" ∧ name ≠ "created" ∧ name ≠ "obsidian_folder" := by decide
      have notFilled := apart name isList
      rw [find?_completed, if_neg notFilled.1, if_neg notFilled.2.1, if_neg notFilled.2.2,
        if_pos isList, given, ← filter_isTag]
      rfl
    · intro name notFilled noList
      simp only [List.mem_cons, List.not_mem_nil, or_false, not_or] at notFilled
      rw [find?_completed, if_neg notFilled.2.1, if_neg notFilled.1, if_neg notFilled.2.2]
      split
      · rename_i isList
        cases given : Fields.find? name header with
        | none => rfl
        | some json =>
          cases json with
          | array tags => exact absurd given (noList tags isList)
          | _ => rfl
      · rfl
    · exact sorted_prepared now
  exact ⟨complete, fun later =>
    ⟨(isComplete_prepared now header).prepared_eq later, folder_prepared now header⟩⟩

-- A number for a time, and a list with tags that say nothing.
example :
    text? (prepared .epoch [("created", .int 20240305)]) "modified" = some "20240305" ∧
      Fields.find? "tags" (prepared .epoch [("tags", .array [.null, .string " ", .bool false])]) =
        some (.array [.bool false]) :=
  ⟨rfl, rfl⟩

end Header

end NoteTemplate
