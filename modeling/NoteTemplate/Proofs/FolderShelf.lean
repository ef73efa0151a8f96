import NoteTemplate.Files.Tree
import NoteTemplate.Proofs.TemplatePaths

/-!
# Templates in a folder

A store in a folder looks at its files and leaves them alone (`FileTree.run_content`). It looks at
the folder as a whole, and finds every template there just as it is found by the path of its own
file (`FileTree.look_content`). Names of templates and files of the folder belong together one by
one, so a template that is listed is the one that its name leads to
(`FolderStore.names_match_files`).
-/

namespace NoteTemplate

/-- Two computations in a row give a result if both do. -/
theorem bind_eq_ok_iff {ε α β : Type} {first : Except ε α} {next : α → Except ε β} {result : β} :
    first >>= next = .ok result ↔ ∃ middle, first = .ok middle ∧ next middle = .ok result := by
  cases first with
  | error fault => simp [bind, Except.bind]
  | ok middle => simp [bind, Except.bind]

/-- A path is not at fault if it is short enough and holds no character that no path may hold. -/
theorem pathFault?_eq_none_iff {path : String} :
    pathFault? path = none ↔ '\x00' ∉ path.toList ∧ path.utf8ByteSize < pathLimit := by
  unfold pathFault?
  by_cases null : '\x00' ∈ path.toList
  · simp [null]
  · by_cases long : pathLimit ≤ path.utf8ByteSize
    · simp [null, long]
    · simp [null, long, Nat.not_le.1 long]

/-- The path of a folder is shorter than a path below it, so it has no fault of its own. -/
theorem pathFault?_base {base part : String} (flat : Path.IsFlat part)
    (sound : pathFault? (Path.join base part) = none) : pathFault? base = none := by
  obtain ⟨free, short⟩ := pathFault?_eq_none_iff.1 sound
  rw [flat.join_eq, String.toList_append, String.toList_append, List.mem_append, List.mem_append,
    not_or, not_or] at free
  rw [flat.join_eq, String.utf8ByteSize_append, String.utf8ByteSize_append] at short
  exact pathFault?_eq_none_iff.2 ⟨free.1.1, by omega⟩

/-- A dot is shorter than the name of the file of a template, so in its place it brings no fault. -/
theorem pathFault?_dot {base name : String} (allowed : isTemplateName name = true)
    (sound : pathFault? (Path.join base (templateFileName name)) = none) :
    pathFault? (Path.join base ".") = none := by
  have flat := (isFlat_templateFileName allowed).1
  have dot : Path.IsFlat "." := ⟨by decide, by decide⟩
  obtain ⟨free, short⟩ := pathFault?_eq_none_iff.1 sound
  rw [flat.join_eq, String.toList_append, List.mem_append, not_or] at free
  rw [flat.join_eq, String.utf8ByteSize_append] at short
  rw [pathFault?_eq_none_iff, dot.join_eq, String.toList_append, List.mem_append, not_or,
    String.utf8ByteSize_append]
  have whole : (templateFileName name).utf8ByteSize = name.utf8ByteSize + 3 := by
    rw [templateFileName, String.utf8ByteSize_append]
    rfl
  have one : ".".utf8ByteSize = 1 := rfl
  exact ⟨⟨free.1, by decide⟩, by omega⟩

/-- What does not start with a dot is not a dot. -/
theorem Path.ne_dot_of_shown {part : String} (shown : part.toList.head? ≠ some '.') :
    part ≠ "." := by
  rintro rfl
  exact shown rfl

/-- The path of the file of a template is below the folder. -/
theorem FolderStore.templatePath_of_isTemplateName (store : FolderStore) {name : String}
    (allowed : isTemplateName name = true) :
    store.templatePath name = .ok (Path.join store.base (templateFileName name)) := by
  rw [templatePath, checkName_of_isTemplateName allowed]
  rfl

/-- The path of the file of a template ends in the name of the file. -/
theorem getLast?_parts_join (base : String) {name : String} (allowed : isTemplateName name = true) :
    (Path.parts (Path.join base (templateFileName name))).getLast? =
      some (templateFileName name) := by
  obtain ⟨flat, -, -, shown⟩ := isFlat_templateFileName allowed
  rw [flat.parts_join (Path.ne_dot_of_shown shown), List.getLast?_append]
  rfl

namespace FolderContent

variable (content : FolderContent) {name : String}

/-- The path of the file may be at fault, or that of the folder, or else the name may be too
long. -/
theorem fault?_eq (name : String) : content.fault? name =
    match pathFault? (Path.join content.base (templateFileName name)), content.fault with
    | some fault, _ | none, some fault => some fault
    | none, none =>
      if partLimit < (templateFileName name).utf8ByteSize then some .longName else none := rfl

/-- The file of an allowed name is looked for in the folder unless there is a fault. -/
theorem look_of_isTemplateName (allowed : isTemplateName name = true) : content.look name =
    match content.fault? name with
    | some .missing => .ok none
    | some fault => .error (.failed .readMetadata fault.message)
    | none => .ok (Fields.find? name content.listed) := by
  rw [look, checkName_of_isTemplateName allowed]
  rfl

end FolderContent

namespace FileTree

/-! ## Reading leaves the files alone -/

/-- The text of a file. -/
def text (tree : FileTree) (path : String) : Except FileFault String :=
  match tree.bytes path with
  | .error fault => .error fault
  | .ok bytes =>
    match String.fromUTF8? bytes with
    | some text => .ok text
    | none => .error .notText

/-- A template file of a given size as text. -/
def readFile (tree : FileTree) (path : String) (size : Nat) : Except Failure String :=
  if sizeLimit < size then .error (.rejected (.oversized path))
  else (tree.text path).mapError fun fault => .failed .readTemplate fault.message

/-- The template files among the names in a folder. -/
def readFiles (tree : FileTree) (base : String) : List String → Fields StoredFile
  | [] => []
  | fileName :: rest =>
    let path := Path.join base fileName
    match templateNameOf? fileName, tree.status path with
    | some name, .ok (.file size modified) =>
      Fields.insert name ⟨modified, tree.readFile path size⟩ (tree.readFiles base rest)
    | _, _ => tree.readFiles base rest

/-- What a folder of templates holds. -/
def content (tree : FileTree) (store : FolderStore) : FolderContent where
  base := store.base
  isPresent := (tree.status store.base).isOk
  fault := match tree.status (Path.join store.base ".") with
    | .ok _ => none
    | .error fault => some fault
  files := (tree.names (Path.join store.base ".")).map (tree.readFiles store.base)

variable (tree : FileTree)

/-- A path is asked for what it leads to. -/
theorem run_status (path : String) :
    StateT.run (Files.status path : StateM FileTree _) tree = (tree.status path, tree) := rfl

/-- The text of a file is read. -/
theorem run_text (path : String) :
    StateT.run (Files.text path : StateM FileTree _) tree = (tree.text path, tree) := by
  have bytes : StateT.run (Files.bytes path : StateM FileTree _) tree = (tree.bytes path, tree) :=
    rfl
  rw [Files.text, run_bind_of_run bytes, text]
  cases tree.bytes path with
  | error fault => rfl
  | ok bytes =>
    dsimp only
    cases String.fromUTF8? bytes <;> rfl

/-- A template file is read. -/
theorem run_readFile (path : String) (size : Nat) :
    StateT.run (FolderStore.readFile path size : StateM FileTree _) tree =
      (tree.readFile path size, tree) := by
  unfold FolderStore.readFile readFile
  split
  · rfl
  · rw [run_bind_of_run (tree.run_text path)]
    rfl

/-- The template files of a folder are read. -/
theorem run_readFiles (base : String) (fileNames : List String) :
    StateT.run (FolderStore.readFiles base fileNames : StateM FileTree _) tree =
      (tree.readFiles base fileNames, tree) := by
  induction fileNames with
  | nil => rfl
  | cons fileName rest ih =>
    have asked := tree.run_status (Path.join base fileName)
    rw [FolderStore.readFiles, run_bind_of_run ih, readFiles]
    cases templateNameOf? fileName with
    | none => rfl
    | some name =>
      dsimp only
      rw [run_bind_of_run asked]
      cases tree.status (Path.join base fileName) with
      | error fault => rfl
      | ok status =>
        cases status with
        | file size modified =>
          dsimp only
          rw [run_bind_of_run (tree.run_readFile _ size)]
          rfl
        | folder => rfl
        | other => rfl

/-- What a folder of templates holds is read. -/
theorem run_content (store : FolderStore) :
    StateT.run (store.content : StateM FileTree _) tree = (tree.content store, tree) := by
  have names : StateT.run (Files.names (Path.join store.base ".") : StateM FileTree _) tree =
      (tree.names (Path.join store.base "."), tree) := rfl
  unfold FolderStore.content
  dsimp only
  rw [run_bind_of_run (tree.run_status store.base), run_bind_of_run (tree.run_status _),
    run_bind_of_run names]
  unfold content
  cases tree.names (Path.join store.base ".") with
  | error fault => rfl
  | ok names =>
    dsimp only
    rw [run_bind_of_run (tree.run_readFiles store.base names)]
    rfl

/-! ## Names in a folder -/

variable {tree : FileTree}

/-- The file of a template is found under its name, wherever it stands among the names. -/
theorem find?_readFiles {base name : String} (allowed : isTemplateName name = true)
    (fileNames : List String) :
    Fields.find? name (tree.readFiles base fileNames) =
      if templateFileName name ∈ fileNames then
        match tree.status (Path.join base (templateFileName name)) with
        | .ok (.file size modified) =>
          some ⟨modified, tree.readFile (Path.join base (templateFileName name)) size⟩
        | _ => none
      else none := by
  induction fileNames with
  | nil => rfl
  | cons fileName rest ih =>
    by_cases own : fileName = templateFileName name
    · have named : templateNameOf? fileName = some name :=
        templateNameOf?_eq_some_iff.2 ⟨own, allowed⟩
      rw [readFiles, named, if_pos (by simp [own])]
      subst own
      split
      · rename_i same status
        obtain rfl := Option.some.inj same
        rw [status, Fields.find?_insert, if_pos rfl]
      · rename_i nothing
        rw [ih]
        split
        · rfl
        · split
          · rename_i size modified status
            exact absurd status (nothing name size modified rfl)
          · rfl
    · have same : (templateFileName name ∈ fileName :: rest) =
          (templateFileName name ∈ rest) := by simp [Ne.symm own]
      simp only [same]
      rw [← ih, readFiles]
      split
      · rename_i other size modified named status
        have different : name ≠ other := by
          rintro rfl
          exact own (templateNameOf?_eq_some_iff.1 named).1
        rw [Fields.find?_insert, if_neg different]
      · rfl

/-- The names of the template files among some names are those of regular files that are named for
a template. -/
theorem mem_names_readFiles {base name : String} {fileNames : List String} :
    name ∈ (tree.readFiles base fileNames).names ↔
      isTemplateName name = true ∧ templateFileName name ∈ fileNames ∧
        ∃ size modified,
          tree.status (Path.join base (templateFileName name)) = .ok (.file size modified) := by
  induction fileNames with
  | nil => simp [readFiles, Fields.names]
  | cons fileName rest ih =>
    rw [readFiles]
    split
    · rename_i other size modified named status
      obtain ⟨rfl, allowed⟩ := templateNameOf?_eq_some_iff.1 named
      rw [Fields.mem_names_insert, ih, List.mem_cons]
      constructor
      · rintro (rfl | ⟨good, member, file⟩)
        · exact ⟨allowed, .inl rfl, size, modified, status⟩
        · exact ⟨good, .inr member, file⟩
      · rintro ⟨good, same | member, file⟩
        · exact .inl (templateFileName_inj same)
        · exact .inr ⟨good, member, file⟩
    · rename_i nothing
      rw [ih, List.mem_cons]
      constructor
      · rintro ⟨good, member, file⟩
        exact ⟨good, .inr member, file⟩
      · rintro ⟨good, rfl | member, size, modified, status⟩
        · have named := templateNameOf?_eq_some_iff.2 ⟨rfl, good⟩
          exact absurd status (nothing name size modified named)
        · exact ⟨good, member, size, modified, status⟩

/-- The template files of a folder are in the order of the names of the templates. -/
theorem sorted_readFiles (base : String) (fileNames : List String) :
    Fields.Sorted (tree.readFiles base fileNames) := by
  induction fileNames with
  | nil => exact List.Pairwise.nil
  | cons fileName rest ih =>
    rw [readFiles]
    split
    · exact Fields.insert_sorted ih
    · exact ih

/-! ## Files in a folder -/

/-- The folder that the path of a folder leads to. -/
def folder (tree : FileTree) (base : String) : Except FileFault Place := do
  let place ← (Path.partsAround base).foldlM tree.follow (tree.start base)
  tree.follow place "."

/-- What lies under a name in a folder, with its place. -/
def within (tree : FileTree) (name : String) (place : Place) : Except FileFault (Place × Entry) :=
  if partLimit < name.utf8ByteSize then .error .longName
  else
    match tree.entry? (name :: place) with
    | some entry => .ok (name :: place, entry)
    | none => .error .missing

/-- What lies under a name in a folder lies at the place of the name there. -/
theorem place_of_within {name : String} {around place : Place} {entry : Entry}
    (inside : tree.within name around = .ok (place, entry)) : place = name :: around := by
  rw [within] at inside
  split at inside
  · cases inside
  · split at inside
    · exact (Prod.mk.inj (Except.ok.inj inside)).1.symm
    · cases inside

section Below

variable {base part : String}

/-- A path below a folder leads from the folder on. -/
theorem locate_join (flat : Path.IsFlat part) (sound : pathFault? (Path.join base part) = none) :
    tree.locate (Path.join base part) =
      (Path.partsAround base).foldlM tree.follow (tree.start base) >>= (tree.follow · part) := by
  have start : tree.start (Path.join base part) = tree.start base := by
    rw [FileTree.start, FileTree.start, flat.isRooted_join]
  rw [locate, sound]
  simp only [if_neg (flat.join_ne_empty base), flat.rawParts_join, start, List.foldlM_append,
    List.foldlM_cons, List.foldlM_nil, bind_pure]

/-- A path without faults that is not empty leads through its parts. -/
theorem locate_eq_ok_iff {path : String} {place : Place} :
    tree.locate path = .ok place ↔ pathFault? path = none ∧ path ≠ "" ∧
      (Path.rawParts path).foldlM tree.follow (tree.start path) = .ok place := by
  rw [locate]
  cases pathFault? path with
  | some fault => simp
  | none =>
    by_cases empty : path = ""
    · simp [empty]
    · simp [empty]

/-- A path is found to lead to what lies where it leads. -/
theorem find_eq_ok_iff {path : String} {place : Place} {entry : Entry} :
    tree.find path = .ok (place, entry) ↔
      tree.locate path = .ok place ∧ tree.entry? place = some entry := by
  rw [find, bind_eq_ok_iff]
  constructor
  · rintro ⟨other, leads, found⟩
    cases there : tree.entry? other with
    | none => simp [there] at found
    | some old => simp_all [pure, Except.pure]
  · rintro ⟨leads, there⟩
    exact ⟨place, leads, by rw [there]; rfl⟩

/-- A path that is at fault leads nowhere. -/
theorem find_of_fault {path : String} {fault : FileFault} (fails : pathFault? path = some fault) :
    tree.find path = .error fault := by
  rw [find, locate, fails]
  rfl

/-- A name leads from a folder to what lies under it, unless it is too long. -/
theorem follow_of_folder (flat : Path.IsFlat part) (shown : part.toList.head? ≠ some '.')
    {place : Place} (there : tree.entry? place = some .folder) :
    tree.follow place part =
      if partLimit < part.utf8ByteSize then .error .longName else .ok (part :: place) := by
  have named : ¬(part = "" ∨ part = ".") :=
    not_or.2 ⟨flat.filled, Path.ne_dot_of_shown shown⟩
  have inside : part ≠ ".." := by
    rintro rfl
    exact shown rfl
  simp only [follow, there, if_neg named, if_neg inside]

/-- What a path below a folder leads to is in the folder. -/
theorem find_join (flat : Path.IsFlat part) (shown : part.toList.head? ≠ some '.')
    (sound : pathFault? (Path.join base part) = none) :
    tree.find (Path.join base part) = tree.folder base >>= tree.within part := by
  rw [find, locate_join flat sound, folder]
  cases (Path.partsAround base).foldlM tree.follow (tree.start base) with
  | error fault => rfl
  | ok place =>
    show (tree.follow place part >>= fun place => _) = tree.follow place "." >>= tree.within part
    cases there : tree.entry? place with
    | none => simp only [follow, there]; rfl
    | some entry =>
      cases entry with
      | file bytes modified => simp only [follow, there]; rfl
      | folder =>
        have here : tree.follow place "." = .ok place := by simp [follow, there]
        rw [here, follow_of_folder flat shown there]
        show _ = tree.within part place
        rw [within]
        split
        · rfl
        · rfl

/-- The path of a folder leads where its parts lead, if that is a folder. -/
theorem folder_eq_ok_iff {place : Place} :
    tree.folder base = .ok place ↔
      (Path.partsAround base).foldlM tree.follow (tree.start base) = .ok place ∧
        tree.entry? place = some .folder := by
  have stays : ∀ last : Place,
      tree.follow last "." = .ok place ↔ last = place ∧ tree.entry? last = some .folder := by
    intro last
    cases there : tree.entry? last with
    | none => simp [follow, there]
    | some entry => cases entry <;> simp [follow, there]
  rw [folder, bind_eq_ok_iff]
  constructor
  · rintro ⟨last, leads, ends⟩
    obtain ⟨rfl, there⟩ := (stays last).1 ends
    exact ⟨leads, there⟩
  · rintro ⟨leads, there⟩
    exact ⟨place, leads, (stays place).2 ⟨rfl, there⟩⟩

/-- The path of a folder leads to the folder. -/
theorem find_of_folder {place : Place} (filled : base ≠ "") (sound : pathFault? base = none)
    (reached : tree.folder base = .ok place) : tree.find base = .ok (place, .folder) := by
  obtain ⟨leads, there⟩ := folder_eq_ok_iff.1 reached
  have stays : tree.follow place "" = .ok place := by simp [follow, there]
  have through : (Path.rawParts base).foldlM tree.follow (tree.start base) = .ok place := by
    rcases Path.rawParts_eq filled with same | more
    · rw [same, leads]
    · rw [more, List.foldlM_append, leads]
      exact bind_eq_ok_iff.2 ⟨place, rfl, bind_eq_ok_iff.2 ⟨place, stays, rfl⟩⟩
  exact find_eq_ok_iff.2 ⟨locate_eq_ok_iff.2 ⟨sound, filled, through⟩, there⟩

/-- The path of a folder with a dot behind it leads to the folder. -/
theorem find_dot (sound : pathFault? (Path.join base ".") = none) :
    tree.find (Path.join base ".") = (tree.folder base).map fun place => (place, .folder) := by
  have flat : Path.IsFlat "." := ⟨by decide, by decide⟩
  have leads : tree.locate (Path.join base ".") = tree.folder base := locate_join flat sound
  cases reached : tree.folder base with
  | error fault =>
    rw [find, leads, reached]
    rfl
  | ok place =>
    exact find_eq_ok_iff.2 ⟨leads.trans reached, (folder_eq_ok_iff.1 reached).2⟩

/-- The names in a folder are those under which something lies there. -/
theorem mem_names_iff {place : Place} {names : List String} (reached : tree.folder base = .ok place)
    (sound : pathFault? (Path.join base ".") = none)
    (listed : tree.names (Path.join base ".") = .ok names) {name : String} :
    name ∈ names ↔ (tree.entry? (name :: place)).isSome := by
  have all : names = tree.entries.filterMap fun listing => nameWithin? place listing.1 := by
    rw [FileTree.names, find_dot sound, reached] at listed
    exact (Except.ok.inj listed).symm
  have root : name :: place ≠ [] := List.cons_ne_nil name place
  have told : ∀ other : Place, nameWithin? place other = some name ↔ other = name :: place := by
    intro other
    cases other with
    | nil => simp [nameWithin?]
    | cons first around =>
      rw [nameWithin?, Option.ite_none_right_eq_some, List.cons.injEq, Option.some.injEq]
      exact And.comm
  rw [all, List.mem_filterMap, entry?, if_neg root, List.lookup_isSome_iff]
  constructor
  · rintro ⟨listing, member, named⟩
    exact ⟨listing, member, beq_iff_eq.2 ((told _).1 named).symm⟩
  · rintro ⟨listing, member, same⟩
    exact ⟨listing, member, (told _).2 (beq_iff_eq.1 same).symm⟩

end Below

/-! ## Looking a template up -/

/-- The file of a template as it is found by its path. -/
def look (tree : FileTree) (store : FolderStore) (name : String) :
    Except Failure (Option StoredFile) := do
  let path ← store.templatePath name
  match tree.status path with
  | .ok (.file size modified) => return some ⟨modified, tree.readFile path size⟩
  | .ok _ | .error .missing => return none
  | .error fault => throw (.failed .readMetadata fault.message)

/-- A file that lies in a folder is among its names. -/
theorem status_by_names {base name : String} {place : Place}
    (reached : tree.folder base = .ok place) (sound : pathFault? (Path.join base ".") = none)
    (found : tree.find (Path.join base name) = tree.within name place)
    (short : ¬partLimit < name.utf8ByteSize) :
    ∃ names, tree.names (Path.join base ".") = .ok names ∧
      (name ∈ names ∧ (∃ status, tree.status (Path.join base name) = .ok status) ∨
        name ∉ names ∧ tree.status (Path.join base name) = .error .missing) := by
  obtain ⟨names, listed⟩ : ∃ names, tree.names (Path.join base ".") = .ok names := by
    rw [FileTree.names, find_dot sound, reached]
    exact ⟨_, rfl⟩
  have member : name ∈ names ↔ (tree.entry? (name :: place)).isSome :=
    mem_names_iff reached sound listed
  rw [within, if_neg short] at found
  refine ⟨names, listed, ?_⟩
  cases there : tree.entry? (name :: place) with
  | none =>
    rw [there] at found member
    exact .inr ⟨by simp [member], by rw [FileTree.status, found]; rfl⟩
  | some entry =>
    rw [there] at found member
    refine .inl ⟨member.2 rfl, ?_⟩
    rw [FileTree.status, found]
    exact ⟨_, rfl⟩

/-- What keeps the file of a template from being looked at is the fault of its path. Without one the
file is there exactly if it is among the names in the folder. -/
theorem fault?_content (store : FolderStore) {name : String}
    (allowed : isTemplateName name = true) :
    (∃ fault, (tree.content store).fault? name = some fault ∧
      tree.status (Path.join store.base (templateFileName name)) = .error fault) ∨
    ((tree.content store).fault? name = none ∧
      ∃ names, tree.names (Path.join store.base ".") = .ok names ∧
        (templateFileName name ∈ names ∧
          (∃ status, tree.status (Path.join store.base (templateFileName name)) = .ok status) ∨
        templateFileName name ∉ names ∧
          tree.status (Path.join store.base (templateFileName name)) = .error .missing)) := by
  obtain ⟨flat, -, -, shown⟩ := isFlat_templateFileName allowed
  have told := (tree.content store).fault?_eq name
  have base : (tree.content store).base = store.base := rfl
  rw [base] at told
  cases sound : pathFault? (Path.join store.base (templateFileName name)) with
  | some fault =>
    have lost : tree.find (Path.join store.base (templateFileName name)) = .error fault :=
      find_of_fault sound
    exact .inl ⟨fault, by rw [told, sound], by rw [FileTree.status, lost]; rfl⟩
  | none =>
    have below : tree.find (Path.join store.base (templateFileName name)) =
        tree.folder store.base >>= tree.within (templateFileName name) :=
      find_join flat shown sound
    have dot : tree.find (Path.join store.base ".") =
        (tree.folder store.base).map fun place => (place, .folder) :=
      find_dot (pathFault?_dot allowed sound)
    cases reached : tree.folder store.base with
    | error fault =>
      have there : (tree.content store).fault = some fault := by
        simp only [content, FileTree.status, dot, reached]
        rfl
      rw [reached] at below
      exact .inl ⟨fault, by rw [told, sound, there], by rw [FileTree.status, below]; rfl⟩
    | ok place =>
      have there : (tree.content store).fault = none := by
        simp only [content, FileTree.status, dot, reached]
        rfl
      have found : tree.find (Path.join store.base (templateFileName name)) =
          tree.within (templateFileName name) place := by rw [below, reached]; rfl
      rw [sound, there] at told
      by_cases long : partLimit < (templateFileName name).utf8ByteSize
      · rw [within, if_pos long] at found
        exact .inl ⟨.longName, told.trans (if_pos long), by rw [FileTree.status, found]; rfl⟩
      · have within := status_by_names reached (pathFault?_dot allowed sound) found long
        exact .inr ⟨told.trans (if_neg long), within⟩

/-- The file of a template is looked for at its path. -/
theorem look_of_isTemplateName (store : FolderStore) {name : String}
    (allowed : isTemplateName name = true) :
    tree.look store name =
      match tree.status (Path.join store.base (templateFileName name)) with
      | .ok (.file size modified) =>
        .ok (some ⟨modified, tree.readFile (Path.join store.base (templateFileName name)) size⟩)
      | .ok _ | .error .missing => .ok none
      | .error fault => .error (.failed .readMetadata fault.message) := by
  rw [look, store.templatePath_of_isTemplateName allowed]
  rfl

/-- A template is found in the folder as it is found by the path of its file. -/
theorem look_content (store : FolderStore) (name : String) :
    (tree.content store).look name = tree.look store name := by
  cases allowed : isTemplateName name with
  | false =>
    obtain ⟨rejection, refused⟩ := checkName_of_refused allowed
    simp only [FolderContent.look, look, FolderStore.templatePath, refused]
    rfl
  | true =>
    rw [look_of_isTemplateName store allowed,
      (tree.content store).look_of_isTemplateName allowed]
    have faults := @fault?_content tree store name allowed
    rcases faults with ⟨fault, fails, lost⟩ | ⟨passes, names, listing, found⟩
    · rw [fails, lost]
      cases fault <;> rfl
    · have files : (tree.content store).listed = tree.readFiles store.base names := by
        simp only [FolderContent.listed, content, listing]
        rfl
      rw [passes, files, find?_readFiles allowed]
      rcases found with ⟨member, status, there⟩ | ⟨absent, missing⟩
      · rw [if_pos member, there]
        cases status <;> rfl
      · rw [if_neg absent, missing]

end FileTree

namespace FolderStore

/-- The templates of a store in a folder, with the files of a tree. -/
def shelfIn (store : FolderStore) (tree : FileTree) : Shelf :=
  ((TemplateStore.shelf : ReaderT FolderStore (StateM FileTree) Shelf).run store).run tree |>.1

/-- Looking at the templates of a store leaves the files alone. -/
theorem run_shelf (store : FolderStore) (tree : FileTree) :
    ((TemplateStore.shelf : ReaderT FolderStore (StateM FileTree) Shelf).run store).run tree =
      ((tree.content store).shelf, tree) := by
  exact run_bind_of_run (tree.run_content store)

/-- What a store in a folder lists: nothing if its path leads nowhere, and else the template files
in the folder. -/
theorem names_shelfIn (store : FolderStore) (tree : FileTree) :
    (store.shelfIn tree).names =
      if (tree.status store.base).isOk then
        ((tree.names (Path.join store.base ".")).map fun fileNames =>
          (tree.readFiles store.base fileNames).names).mapError
            fun fault => .failed .readFolder fault.message
      else .ok [] := by
  rw [shelfIn, run_shelf]
  show (if (tree.status store.base).isOk then
    (((tree.names (Path.join store.base ".")).map (tree.readFiles store.base)).map
      Fields.names).mapError _ else _) = _
  cases tree.names (Path.join store.base ".") <;> rfl

/-- The template files among some names are listed in ascending order. -/
theorem ascending_readFiles (tree : FileTree) (base : String) (fileNames : List String) :
    (tree.readFiles base fileNames).names.Pairwise (· < ·) :=
  List.pairwise_map.2 (FileTree.sorted_readFiles base fileNames)

/-- A template is listed only if its file lies in the folder. -/
theorem file_of_listed {store : FolderStore} {tree : FileTree} {names : List String}
    (listed : (store.shelfIn tree).names = .ok names) {name : String} (member : name ∈ names) :
    isTemplateName name = true ∧ ∃ size modified,
      tree.status (Path.join store.base (templateFileName name)) = .ok (.file size modified) := by
  rw [names_shelfIn] at listed
  split at listed
  · cases inside : tree.names (Path.join store.base ".") with
    | error fault =>
      rw [inside] at listed
      cases listed
    | ok fileNames =>
      rw [inside] at listed
      obtain rfl := Except.ok.inj listed
      obtain ⟨allowed, -, file⟩ := FileTree.mem_names_readFiles.1 member
      exact ⟨allowed, file⟩
  · obtain rfl := Except.ok.inj listed
    cases member

end FolderStore

namespace FileTree

/-- The template whose file a path leads to, by the ending of the last part of the path. There is
none unless a regular file lies there. -/
def templateAt? (tree : FileTree) (path : String) : Option String :=
  match (Path.parts path).getLast?.map fun fileName => Path.cutEnding fileName.toList,
    tree.status path with
  | some (stem, some ending), .ok (.file ..) =>
    if ending = "md".toList then (some (String.ofList stem)).filter isTemplateName else none
  | _, _ => none

/-- A path leads to the file of a template if a regular file lies there that is named for it. -/
theorem templateAt?_eq_some_iff {tree : FileTree} {path name : String} :
    tree.templateAt? path = some name ↔
      isTemplateName name = true ∧ (Path.parts path).getLast? = some (templateFileName name) ∧
        ∃ size modified, tree.status path = .ok (.file size modified) := by
  have told : tree.templateAt? path =
      match (Path.parts path).getLast?, tree.status path with
      | some fileName, .ok (.file ..) => templateNameOf? fileName
      | _, _ => none := by
    rw [templateAt?]
    cases (Path.parts path).getLast? with
    | none => rfl
    | some fileName =>
      have named := templateNameOf?_eq_stem fileName
      rw [Option.map_some]
      generalize Path.cutEnding fileName.toList = cut at named ⊢
      rcases cut with ⟨stem, _ | ending⟩ <;>
        rcases tree.status path with fault | ⟨size, modified⟩ | - | - <;>
        first | rfl | exact named.symm
  rw [told]
  cases (Path.parts path).getLast? with
  | none => simp
  | some fileName =>
    rcases tree.status path with fault | ⟨size, modified⟩ | - | -
    · simp
    · simp [templateNameOf?_eq_some_iff, and_comm]
    · simp
    · simp

end FileTree

/-- The name of a template leads to one file of the folder and to no other: the path of the file is
that of the folder with one part more, which is the name with its ending, means nothing else in a
path, and belongs to no other name. Where a path leads to the file of a template, the file is named
for the template, and so a template that is listed is the one whose file its name leads to. -/
theorem FolderStore.names_match_files (store : FolderStore) :
    (∀ name, isTemplateName name = true → ∃ path,
      store.templatePath name = .ok path ∧
      path = store.base ++ Path.separator store.base ++ (name ++ ".md") ∧
      Path.isRooted path = Path.isRooted store.base ∧
      Path.parts path = Path.parts store.base ++ [name ++ ".md"] ∧
      (name ++ ".md").toList.head? ≠ some '.' ∧
      (∀ c ∈ (name ++ ".md").toList, c ≠ '/' ∧ c ≠ '\\' ∧ c ≠ '\x00') ∧
      (∀ other, store.templatePath other = .ok path → other = name) ∧
      ∀ (tree : FileTree) (size modified : Nat), tree.status path = .ok (.file size modified) →
        tree.templateAt? path = some name) ∧
    (∀ (tree : FileTree) (path name : String), tree.templateAt? path = some name →
      isTemplateName name = true ∧ (Path.parts path).getLast? = some (name ++ ".md") ∧
      ∃ size modified, tree.status path = .ok (.file size modified)) ∧
    ∀ (tree : FileTree) (names : List String), (store.shelfIn tree).names = .ok names →
      ∀ name ∈ names, ∃ path, store.templatePath name = .ok path ∧
        tree.templateAt? path = some name := by
  refine ⟨?_, ?_, ?_⟩
  · intro name allowed
    obtain ⟨flat, straight, sound, shown⟩ := isFlat_templateFileName allowed
    refine ⟨_, templatePath_of_isTemplateName store allowed, flat.join_eq _, flat.isRooted_join _,
      flat.parts_join (Path.ne_dot_of_shown shown) _, shown, ?_, ?_, ?_⟩
    · intro c member
      refine ⟨?_, ?_, ?_⟩ <;> rintro rfl
      · exact flat.single member
      · exact straight member
      · exact sound member
    · intro other same
      cases good : isTemplateName other with
      | false =>
        obtain ⟨rejection, refused⟩ := checkName_of_refused good
        rw [templatePath, refused] at same
        cases same
      | true =>
        rw [templatePath_of_isTemplateName store good] at same
        have ends := getLast?_parts_join store.base good
        rw [Except.ok.inj same, getLast?_parts_join store.base allowed] at ends
        exact (templateFileName_inj (Option.some.inj ends)).symm
    · intro tree size modified status
      exact FileTree.templateAt?_eq_some_iff.2 ⟨allowed,
        getLast?_parts_join store.base allowed, size, modified, status⟩
  · intro tree path name found
    exact FileTree.templateAt?_eq_some_iff.1 found
  · intro tree names listed name member
    obtain ⟨allowed, file⟩ := file_of_listed listed member
    have told := FileTree.templateAt?_eq_some_iff.2
      ⟨allowed, getLast?_parts_join store.base allowed, file⟩
    exact ⟨_, templatePath_of_isTemplateName store allowed, told⟩

/-- A folder with the file of one template, whose name has the ending of such a file within it. -/
def dottedNotes : FileTree where
  entries := [(["v1.md..md", "notes"], .file "hi".toUTF8 7), (["notes"], .folder)]

/-- A name with dots leads to its own file, and is listed for it. -/
theorem FolderStore.names_match_files_dotted :
    isTemplateName "v1.md." = true ∧
    (∃ path, FolderStore.templatePath ⟨"notes"⟩ "v1.md." = .ok path ∧
      Path.parts path = Path.parts "notes" ++ ["v1.md." ++ ".md"] ∧
      dottedNotes.templateAt? path = some "v1.md.") ∧
    (FolderStore.shelfIn ⟨"notes"⟩ dottedNotes).names = .ok ["v1.md."] ∧
    ∃ path, FolderStore.templatePath ⟨"notes"⟩ "v1.md." = .ok path ∧
      dottedNotes.templateAt? path = some "v1.md." := by
  have allowed : isTemplateName "v1.md." = true := by decide +kernel
  have status : dottedNotes.status "notes/v1.md..md" = .ok (.file 2 7) := rfl
  have listed : (FolderStore.shelfIn ⟨"notes"⟩ dottedNotes).names = .ok ["v1.md."] := by
    rw [FolderStore.names_shelfIn]
    rfl
  obtain ⟨onePath, -, fromList⟩ := FolderStore.names_match_files ⟨"notes"⟩
  obtain ⟨path, leads, text, -, parts, -, -, -, back⟩ := onePath "v1.md." allowed
  have same : path = "notes/v1.md..md" := text.trans (by decide +kernel)
  exact ⟨allowed, ⟨path, leads, parts, back dottedNotes 2 7 (same ▸ status)⟩, listed,
    fromList dottedNotes ["v1.md."] listed "v1.md." List.mem_cons_self⟩

end NoteTemplate
