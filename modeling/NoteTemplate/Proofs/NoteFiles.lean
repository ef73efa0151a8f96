import NoteTemplate.Files.Path
import NoteTemplate.Note

/-!
# Files of notes

Whatever name is asked for, the file of a note has a name of one part that ends as the names of
notes do (`Note.isFileName_fileNameOf`). So a note lies in the inbox itself, and a note that is
asked for under the name of another has that name (`Note.ofDocument_contained`).
-/

namespace NoteTemplate

open Calendar (Moment)
open Text (IsTrimmed)

namespace Note

/-! ## Names of files -/

/-- A name for the file of a note. -/
structure IsFileName (name : String) : Prop where
  /-- There is no white space at its ends. -/
  trimmed : IsTrimmed name.toList
  /-- It has no slash of either kind. -/
  flat : ∀ c ∈ name.toList, c ≠ '/' ∧ c ≠ '\\'
  /-- It has the ending of notes. -/
  ending : fileEnding.toList <:+ name.toList

/-- A name that was flattened is trimmed. -/
theorem isTrimmed_flattened (name : String) : IsTrimmed (flattened name) := by
  obtain ⟨_, _, -, -, sharp, -⟩ := Text.exists_trim name.toList
  have black : ∀ {c d : Char}, Text.isBlank d = false →
      (if d = '/' ∨ d = '\\' then '-' else d) = c → Text.isBlank c = false := by
    rintro c d visible rfl
    split
    · decide
    · exact visible
  constructor
  · intro c member
    rw [flattened, List.head?_map, Option.mem_def, Option.map_eq_some_iff] at member
    obtain ⟨d, first, same⟩ := member
    exact black (sharp.start d first) same
  · intro c member
    rw [flattened, List.getLast?_map, Option.mem_def, Option.map_eq_some_iff] at member
    obtain ⟨d, last, same⟩ := member
    exact black (sharp.stop d last) same

/-- A name that was flattened has no slashes. -/
theorem flat_flattened (name : String) : ∀ c ∈ flattened name, c ≠ '/' ∧ c ≠ '\\' := by
  intro c member
  obtain ⟨d, -, rfl⟩ := List.mem_map.1 member
  split
  · decide
  · rename_i other
    exact not_or.1 other

/-- The ending makes a trimmed text without slashes the name of a file. -/
theorem isFileName_withEnding {text : List Char} (trimmed : IsTrimmed text)
    (flat : ∀ c ∈ text, c ≠ '/' ∧ c ≠ '\\') : IsFileName (withEnding text) := by
  unfold withEnding
  split
  · rename_i ended
    constructor
    · rwa [String.toList_ofList]
    · rwa [String.toList_ofList]
    · rw [String.toList_ofList]
      exact List.isSuffixOf_iff_suffix.1 ended
  · have sharp : IsTrimmed (text ++ fileEnding.toList) := by
      constructor
      · intro c member
        cases text with
        | nil =>
          cases member
          decide
        | cons d text => exact trimmed.start c member
      · intro c member
        have last : (text ++ fileEnding.toList).getLast? = some 'd' := by
          rw [List.getLast?_append]
          rfl
        rw [last] at member
        cases member
        decide
    have apart : ∀ c ∈ fileEnding.toList, c ≠ '/' ∧ c ≠ '\\' := by simp [fileEnding]
    constructor
    · rwa [String.toList_ofList]
    · rw [String.toList_ofList]
      exact fun c member => (List.mem_append.1 member).elim (flat c) (apart c)
    · rw [String.toList_ofList]
      exact List.suffix_append _ _

/-- The file of every note has a name for it. -/
theorem isFileName_fileNameOf (template : String) (context : Context) (now : Moment) :
    IsFileName (fileNameOf template context now) :=
  isFileName_withEnding (isTrimmed_flattened _) (flat_flattened _)

/-! ## Where a note lies -/

variable {name : String}

/-- The name of a file is a text and the ending behind it. -/
theorem IsFileName.exists_stem (isName : IsFileName name) : ∃ stem, name = stem ++ fileEnding := by
  obtain ⟨stem, whole⟩ := isName.ending
  refine ⟨String.ofList stem, ?_⟩
  rw [← String.toList_inj, String.toList_append, String.toList_ofList, whole]

/-- The name of a file is longer than what leads nowhere or to the folder around. -/
theorem IsFileName.ne_of_short (isName : IsFileName name) {short : String}
    (length : short.toList.length < 3) : name ≠ short := by
  rintro rfl
  have long := isName.ending.length_le
  have three : fileEnding.toList.length = 3 := by decide
  omega

/-- A path is cut into the folder and the name of the file. -/
theorem IsFileName.rawParts_path (isName : IsFileName name) :
    Path.rawParts (VaultFolder.inbox.path ++ "/" ++ name) = [VaultFolder.inbox.path, name] := by
  have text : (VaultFolder.inbox.path ++ "/" ++ name).toList =
      VaultFolder.inbox.path.toList ++ '/' :: name.toList := by
    simp
  have folder : '/' ∉ VaultFolder.inbox.path.toList := by decide
  have file : '/' ∉ name.toList := fun member => (isName.flat '/' member).1 rfl
  rw [Path.rawParts, text, Text.splitOn_middle, Text.splitOn_of_not_mem folder,
    Text.splitOn_of_not_mem file]
  simp

/-- The path of a file in the inbox consists of these two parts. -/
theorem IsFileName.parts_path (isName : IsFileName name) :
    Path.parts (VaultFolder.inbox.path ++ "/" ++ name) = [VaultFolder.inbox.path, name] := by
  have folder : VaultFolder.inbox.path ≠ "" ∧ VaultFolder.inbox.path ≠ "." := by decide
  have file : name ≠ "" ∧ name ≠ "." :=
    ⟨isName.ne_of_short (by decide), isName.ne_of_short (by decide)⟩
  rw [Path.parts, isName.rawParts_path]
  simp [folder, file]

/-- The path of a file in the inbox is below the inbox. -/
theorem IsFileName.join_path (isName : IsFileName name) :
    Path.join VaultFolder.inbox.path name = VaultFolder.inbox.path ++ "/" ++ name := by
  have last : VaultFolder.inbox.path.toList.getLast? = some 'x' := by decide
  cases text : name.toList with
  | nil => exact absurd (String.toList_eq_nil_iff.1 text) (isName.ne_of_short (by decide))
  | cons c rest =>
    have relative : c ≠ '/' := (isName.flat c (by simp [text])).1
    rw [Path.join, last, text, List.head?_cons]
    split
    · rename_i rooted
      exact absurd (Option.some.inj rooted) relative
    · rename_i absent _
      cases absent
    · rename_i slash _
      exact absurd (Option.some.inj slash) (by decide)
    · rfl

/-! ## Asking for a name -/

/-- The name of a file is not changed. -/
theorem IsFileName.withEnding_flattened (isName : IsFileName name) :
    withEnding (flattened name) = name := by
  have kept : flattened name = name.toList := by
    have same : ∀ c ∈ name.toList, (if c = '/' ∨ c = '\\' then '-' else c) = id c :=
      fun c member => if_neg (not_or.2 (isName.flat c member))
    rw [flattened, isName.trimmed.trim_eq, List.map_congr_left same, List.map_id]
  rw [withEnding, kept, if_pos (List.isSuffixOf_iff_suffix.2 isName.ending), String.ofList_toList]

/-- Where the name of a file is asked for, that is the name. -/
theorem IsFileName.fileNameOf_insert (isName : IsFileName name) (template : String)
    (context : Context) (now : Moment) :
    fileNameOf template (context.insert "filename" (.string name)) now = name := by
  have visible : Text.isBlankText name = false := by
    apply List.all_eq_false.2
    obtain ⟨stem, whole⟩ := isName.ending
    exact ⟨'d', by rw [← whole]; simp [fileEnding], by decide⟩
  have bound : boundText? (context.insert "filename" (.string name)) "filename"
      (!Text.isBlankText ·) = some name := by
    rw [boundText?, Context.get?, Context.insert, Fields.find?_insert, if_pos rfl]
    simp [Value.display, visible]
  rw [fileNameOf, requestedName, bound]
  exact isName.withEnding_flattened

/-- The file of the note of any document has a name that is one part of a path, neither of the two
with a meaning of their own, and ends as the names of notes do. The note lies in the inbox, below
which its path has this one part; and a note that is asked for under the name has it again, of
whatever document and template and at whatever time. -/
theorem ofDocument_contained (template : String) (document : Document) (context : Context)
    (now : Moment) :
    let note := ofDocument template document context now
    (note.fileName ≠ "" ∧ note.fileName ≠ "." ∧ note.fileName ≠ "..") ∧
      (∃ stem, note.fileName = stem ++ ".md") ∧
      ('/' ∉ note.fileName.toList ∧ '\\' ∉ note.fileName.toList) ∧
      note.path = Path.join "00_Inbox" note.fileName ∧
      Path.isRooted note.path = false ∧
      Path.parts note.path = ["00_Inbox", note.fileName] ∧
      ∀ again other later,
        (ofDocument again other (context.insert "filename" (.string note.fileName))
          later).fileName = note.fileName := by
  intro note
  have isName : IsFileName note.fileName := isFileName_fileNameOf template context now
  refine ⟨⟨isName.ne_of_short (by decide), isName.ne_of_short (by decide),
    isName.ne_of_short (by decide)⟩, isName.exists_stem, ?_, isName.join_path.symm, ?_,
    isName.parts_path, ?_⟩
  · exact ⟨fun member => (isName.flat _ member).1 rfl, fun member => (isName.flat _ member).2 rfl⟩
  · have front : note.path.toList.head? = some '0' := by
      simp [path, VaultFolder.path]
    rw [Path.isRooted, front]
    decide
  · intro again other later
    exact isName.fileNameOf_insert again context later

-- White space at the ends of a name that is asked for is dropped, and a slash in it is a hyphen.
example :
    fileNameOf "t" (.ofList [("filename", .string " plans/q2\n")]) .epoch = "plans-q2.md" := by
  decide +kernel

end Note

end NoteTemplate
