import NoteTemplate.Proofs.FolderShelf

/-!
# Files that are written

A template is written in two steps: the folder is made with those around it that are missing, and
then the file is put into it. The first step only adds folders (`FileTree.addsFolders_makeFolders`),
and adds none if the folder is there already (`FileTree.makeFolders_of_present`). The second one
puts a file where no folder lies (`FileTree.placeForFile_join`). So all paths that led to folders
lead there still, and what was found is found unless it is the file itself
(`FileTree.KeepsFolders.find`).
-/

namespace NoteTemplate

namespace Path

/-- Slashes behind a path add empty parts. -/
theorem splitOn_slashes (front : List Char) {slashes : List Char} (all : ∀ c ∈ slashes, c = '/') :
    Text.splitOn '/' (front ++ slashes) = Text.splitOn '/' front ++ slashes.map fun _ => [] := by
  induction slashes generalizing front with
  | nil => simp
  | cons c rest ih =>
    obtain ⟨rfl, later⟩ := List.forall_mem_cons.1 all
    have behind : Text.splitOn '/' rest = [[]] ++ rest.map fun _ => [] := ih [] later
    rw [Text.splitOn_middle, behind]
    rfl

/-- A path is what it is without the slashes at its end, and the slashes. -/
theorem exists_endSlashes (path : String) :
    ∃ slashes, path.toList = (withoutEndSlashes path).toList ++ slashes ∧
      ∀ c ∈ slashes, c = '/' := by
  refine ⟨(path.toList.reverse.takeWhile (· = '/')).reverse, ?_, ?_⟩
  · rw [withoutEndSlashes, String.toList_ofList, ← List.reverse_append,
      List.takeWhile_append_dropWhile, List.reverse_reverse]
  · intro c member
    have slash := List.all_eq_true.1 List.all_takeWhile c (List.mem_reverse.1 member)
    exact of_decide_eq_true slash

/-- Without the slashes at its end a path has the same parts up to empty ones at the end, and starts
where it started unless nothing is left. -/
theorem rawParts_withoutEndSlashes (path : String) :
    (∃ blanks, rawParts path = rawParts (withoutEndSlashes path) ++ blanks ∧
      ∀ part ∈ blanks, part = "") ∧
    (withoutEndSlashes path ≠ "" → isRooted path = isRooted (withoutEndSlashes path)) := by
  obtain ⟨slashes, whole, all⟩ := exists_endSlashes path
  constructor
  · refine ⟨slashes.map fun _ => "", ?_, ?_⟩
    · rw [rawParts, rawParts, whole, splitOn_slashes _ all, List.map_append, List.map_map]
      rfl
    · intro part member
      obtain ⟨-, -, rfl⟩ := List.mem_map.1 member
      rfl
  · intro filled
    obtain ⟨c, rest, text⟩ := List.exists_cons_of_ne_nil (mt String.toList_eq_nil_iff.1 filled)
    rw [isRooted, isRooted, whole, text]
    rfl

end Path

namespace FileTree

variable {tree changed last : FileTree}

/-! ## What lies where after a change -/

/-- What lies at a place after something was put at a place that is not the root. -/
theorem entry?_put {place : Place} (below : place ≠ []) (entry : Entry) (other : Place) :
    entry? (tree.put place entry) other =
      if other = place then some entry else tree.entry? other := by
  have removed : ∀ entries : List (Place × Entry), other ≠ place →
      (entries.filter (·.1 ≠ place)).lookup other = entries.lookup other := by
    intro entries different
    induction entries with
    | nil => rfl
    | cons listing rest ih =>
      obtain ⟨key, old⟩ := listing
      by_cases gone : key = place
      · have elsewhere : (other == key) = false := by simp [gone, different]
        rw [List.filter_cons_of_neg (by simp [gone]), ih, List.lookup_cons, elsewhere]
      · rw [List.filter_cons_of_pos (by simp [gone]), List.lookup_cons, List.lookup_cons, ih]
  unfold entry? put
  by_cases same : other = place
  · subst same
    rw [if_neg below, if_pos rfl, List.lookup_cons_self]
  · have elsewhere : (other == place) = false := by simp [same]
    rw [if_neg same, List.lookup_cons, elsewhere]
    exact congrArg (ite _ _) (removed tree.entries same)

/-- A tree keeps the folders of another one, and the current folder. -/
structure KeepsFolders (tree changed : FileTree) : Prop where
  /-- The current folder is the same. -/
  current : changed.current = tree.current
  /-- A folder stays one. -/
  kept : ∀ place, tree.entry? place = some .folder → changed.entry? place = some .folder

/-- A tree holds all that another one holds, and besides that at most more folders. -/
structure Grows (tree changed : FileTree) : Prop where
  /-- The current folder is the same. -/
  current : changed.current = tree.current
  /-- The time is the same. -/
  now : changed.now = tree.now
  /-- What lies at a place stays. -/
  kept : ∀ place entry, tree.entry? place = some entry → changed.entry? place = some entry
  /-- Only folders are added. -/
  added : ∀ place, tree.entry? place = none →
    changed.entry? place = none ∨ changed.entry? place = some .folder

/-- A tree grows into itself. -/
theorem Grows.refl (tree : FileTree) : Grows tree tree :=
  ⟨rfl, rfl, fun _ _ there => there, fun _ away => .inl away⟩

/-- A tree that grows twice grows. -/
theorem Grows.trans (first : Grows tree changed) (second : Grows changed last) :
    Grows tree last where
  current := second.current.trans first.current
  now := second.now.trans first.now
  kept place entry there := second.kept place entry (first.kept place entry there)
  added place away := by
    rcases first.added place away with still | new
    · exact second.added place still
    · exact .inr (second.kept place .folder new)

/-- A tree that grows keeps its folders. -/
theorem Grows.keepsFolders (grows : Grows tree changed) : KeepsFolders tree changed :=
  ⟨grows.current, fun place there => grows.kept place .folder there⟩

/-- A file that is put where no folder lies leaves all folders. -/
theorem keepsFolders_put {place : Place} (free : tree.entry? place ≠ some .folder) (entry : Entry) :
    KeepsFolders tree (tree.put place entry) where
  current := rfl
  kept other there := by
    have below : place ≠ [] := by
      rintro rfl
      exact free rfl
    have different : other ≠ place := by
      rintro rfl
      exact free there
    rw [entry?_put below, if_neg different, there]

/-! ## Where paths lead after a change -/

/-- A part that leads somewhere leads there as long as the folders are kept. -/
theorem KeepsFolders.follow (keeps : KeepsFolders tree changed) {place next : Place} {part : String}
    (leads : tree.follow place part = .ok next) : changed.follow place part = .ok next := by
  cases there : tree.entry? place with
  | none => simp [FileTree.follow, there] at leads
  | some entry =>
    cases entry with
    | file bytes modified => simp [FileTree.follow, there] at leads
    | folder =>
      have still := keeps.kept place there
      rw [FileTree.follow, there] at leads
      rw [FileTree.follow, still]
      exact leads

/-- Parts that lead somewhere lead there as long as the folders are kept. -/
theorem KeepsFolders.foldlM_follow (keeps : KeepsFolders tree changed) {parts : List String}
    {place next : Place} (leads : parts.foldlM tree.follow place = .ok next) :
    parts.foldlM changed.follow place = .ok next := by
  induction parts generalizing place with
  | nil => exact leads
  | cons part rest ih =>
    rw [List.foldlM_cons] at leads ⊢
    obtain ⟨middle, first, later⟩ := bind_eq_ok_iff.1 leads
    exact bind_eq_ok_iff.2 ⟨middle, keeps.follow first, ih later⟩

/-- Paths start where they started as long as the current folder is the same. -/
theorem KeepsFolders.start (keeps : KeepsFolders tree changed) (path : String) :
    changed.start path = tree.start path := by
  rw [FileTree.start, FileTree.start, keeps.current]

/-- A path that leads to a folder leads there as long as the folders are kept. -/
theorem KeepsFolders.folder (keeps : KeepsFolders tree changed) {base : String} {place : Place}
    (reached : tree.folder base = .ok place) : changed.folder base = .ok place := by
  obtain ⟨around, leads, ends⟩ := bind_eq_ok_iff.1 reached
  rw [← keeps.start] at leads
  exact bind_eq_ok_iff.2 ⟨around, keeps.foldlM_follow leads, keeps.follow ends⟩

/-- A path leads where it led as long as the folders are kept. -/
theorem KeepsFolders.locate (keeps : KeepsFolders tree changed) {path : String} {place : Place}
    (leads : tree.locate path = .ok place) : changed.locate path = .ok place := by
  obtain ⟨sound, filled, through⟩ := locate_eq_ok_iff.1 leads
  rw [← keeps.start] at through
  exact locate_eq_ok_iff.2 ⟨sound, filled, keeps.foldlM_follow through⟩

/-- What a path leads to is found as long as it and the folders are kept. -/
theorem KeepsFolders.find (keeps : KeepsFolders tree changed) {path : String} {place : Place}
    {entry : Entry} (found : tree.find path = .ok (place, entry))
    (kept : changed.entry? place = some entry) : changed.find path = .ok (place, entry) :=
  find_eq_ok_iff.2 ⟨keeps.locate (find_eq_ok_iff.1 found).1, kept⟩

/-! ## Making folders -/

/-- The last part of a path is looked up where the parts in front of it lead. -/
theorem locateLast_eq_ok_iff {path part : String} {around : Place} :
    tree.locateLast path = .ok (around, part) ↔
      pathFault? path = none ∧ ∃ before, Path.rawParts path = before ++ [part] ∧
        before.foldlM tree.follow (tree.start path) = .ok around := by
  rw [locateLast]
  cases sound : pathFault? path with
  | some fault => simp
  | none =>
    cases reversed : (Path.rawParts path).reverse with
    | nil =>
      have empty : Path.rawParts path = [] := List.reverse_eq_nil_iff.1 reversed
      simp [empty]
    | cons final before =>
      have whole : Path.rawParts path = before.reverse ++ [final] := by
        rw [← List.reverse_reverse (Path.rawParts path), reversed, List.reverse_cons]
      rw [whole]
      show (before.reverse.foldlM tree.follow (tree.start path)).map _ = _ ↔ _
      constructor
      · intro leads
        cases inside : before.reverse.foldlM tree.follow (tree.start path) with
        | error fault =>
          rw [inside] at leads
          cases leads
        | ok place =>
          rw [inside] at leads
          obtain ⟨rfl, rfl⟩ := Prod.mk.inj (Except.ok.inj leads)
          exact ⟨rfl, before.reverse, rfl, inside⟩
      · rintro ⟨-, front, same, leads⟩
        obtain ⟨rfl, ends⟩ := List.append_inj' same rfl
        obtain rfl := List.singleton_inj.1 ends
        rw [leads]
        rfl

/-- A folder is made where nothing lies. -/
theorem makeFolder_eq_ok {path : String} (made : tree.makeFolder path = .ok changed) :
    ∃ around part place, tree.locateLast (Path.withoutEndSlashes path) = .ok (around, part) ∧
      part ≠ "" ∧ tree.follow around part = .ok place ∧ tree.entry? place = none ∧
      changed = tree.put place .folder := by
  rw [makeFolder] at made
  split at made
  · cases made
  · obtain ⟨⟨around, part⟩, leads, rest⟩ := bind_eq_ok_iff.1 made
    obtain ⟨place, follows, ends⟩ := bind_eq_ok_iff.1 rest
    split at ends
    · cases ends
    · rename_i new
      rw [not_or] at new
      obtain ⟨named, free⟩ := new
      refine ⟨around, part, place, leads, fun empty => named (.inl empty), follows, ?_, ?_⟩
      · exact Option.not_isSome_iff_eq_none.1 free
      · exact (Except.ok.inj ends).symm

/-- To make a folder is to add a folder. -/
theorem makeFolder_grows {path : String} (made : tree.makeFolder path = .ok changed) :
    Grows tree changed := by
  obtain ⟨around, part, place, -, -, -, free, rfl⟩ := makeFolder_eq_ok made
  have below : place ≠ [] := by
    rintro rfl
    cases free
  refine ⟨rfl, rfl, fun other entry there => ?_, fun other away => ?_⟩
  · have different : other ≠ place := by
      rintro rfl
      rw [free] at there
      cases there
    rw [entry?_put below, if_neg different, there]
  · rw [entry?_put below]
    split
    · exact .inr rfl
    · exact .inl away

/-- A computation that adds at most folders. -/
def AddsFolders {α : Type} (action : StateM FileTree α) : Prop :=
  ∀ tree, Grows tree (action.run tree).2

/-- To do nothing is to add at most folders. -/
theorem addsFolders_pure {α : Type} (value : α) :
    AddsFolders (pure value : StateM FileTree α) := Grows.refl

/-- To add at most folders twice is to add at most folders. -/
theorem AddsFolders.bind {α β : Type} {action : StateM FileTree α} {next : α → StateM FileTree β}
    (first : AddsFolders action) (later : ∀ value, AddsFolders (next value)) :
    AddsFolders (action >>= next) := by
  intro tree
  rw [StateT.run_bind]
  exact (first tree).trans (later _ _)

/-- A path is asked whether it leads to a folder, and nothing changes. -/
theorem run_isFolder (tree : FileTree) (path : String) :
    StateT.run (Files.isFolder path : StateM FileTree _) tree =
      (match tree.status path with
        | .ok .folder => true
        | _ => false, tree) := by
  rw [Files.isFolder, run_bind_of_run (tree.run_status path)]
  rcases tree.status path with fault | ⟨size, modified⟩ | - | - <;> rfl

/-- To make a folder that may exist already is to add at most folders. -/
theorem addsFolders_ensureFolder (path : String) :
    AddsFolders (Files.ensureFolder path : StateM FileTree _) := by
  have make : AddsFolders (Files.makeFolder path : StateM FileTree _) := by
    intro tree
    show Grows tree (step (·.makeFolder path) tree).2
    rw [step]
    cases made : tree.makeFolder path with
    | error fault => exact .refl tree
    | ok changed => exact makeFolder_grows made
  have ask : AddsFolders (Files.isFolder path : StateM FileTree _) := by
    intro tree
    rw [run_isFolder]
    exact .refl tree
  refine make.bind fun result => ?_
  cases result with
  | ok done => exact addsFolders_pure _
  | error fault => exact ask.bind fun isFolder => addsFolders_pure _

/-- To make a folder and those around it is to add at most folders. -/
theorem addsFolders_makeFoldersWithin (levels : Nat) (path : String) :
    AddsFolders (Files.makeFoldersWithin levels path : StateM FileTree _) := by
  induction levels generalizing path with
  | zero => exact addsFolders_ensureFolder path
  | succ levels ih =>
    rw [Files.makeFoldersWithin]
    split
    · exact addsFolders_pure _
    · refine (addsFolders_ensureFolder path).bind fun result => ?_
      split
      · refine (ih _).bind fun inner => ?_
        cases inner with
        | ok done => exact addsFolders_ensureFolder path
        | error fault => exact addsFolders_pure _
      · exact addsFolders_pure _

/-- To make a folder and all those around it is to add at most folders. -/
theorem addsFolders_makeFolders (path : String) :
    AddsFolders (Files.makeFolders path : StateM FileTree _) :=
  addsFolders_makeFoldersWithin _ path

/-- Empty parts lead nowhere. -/
theorem foldlM_follow_blanks {blanks : List String} (all : ∀ part ∈ blanks, part = "")
    {place next : Place} (leads : blanks.foldlM tree.follow place = .ok next) : next = place := by
  induction blanks generalizing place with
  | nil => exact (Except.ok.inj leads).symm
  | cons part rest ih =>
    obtain ⟨rfl, later⟩ := List.forall_mem_cons.1 all
    rw [List.foldlM_cons] at leads
    obtain ⟨middle, first, behind⟩ := bind_eq_ok_iff.1 leads
    have stays : middle = place := by
      cases there : tree.entry? place with
      | none => simp [follow, there] at first
      | some entry =>
        cases entry with
        | file bytes modified => simp [follow, there] at first
        | folder =>
          have same : place = middle := by simpa [follow, there] using first
          exact same.symm
    rw [ih later behind, stays]

/-- Where a folder can be made, there is nothing yet. -/
theorem find_ne_ok_of_makeFolder {path : String} (made : tree.makeFolder path = .ok changed)
    (found : Place × Entry) : tree.find path ≠ .ok found := by
  intro there
  obtain ⟨around, part, place, leads, named, follows, free, -⟩ := makeFolder_eq_ok made
  obtain ⟨-, before, parts, inside⟩ := locateLast_eq_ok_iff.1 leads
  obtain ⟨located, entry⟩ := find_eq_ok_iff.1 there
  obtain ⟨-, -, through⟩ := locate_eq_ok_iff.1 located
  obtain ⟨⟨blanks, whole, all⟩, rooted⟩ := Path.rawParts_withoutEndSlashes path
  have filled : Path.withoutEndSlashes path ≠ "" := by
    intro empty
    rw [empty] at parts
    have single : [""] = before ++ [part] := parts
    have last : part = "" := by simpa using congrArg List.getLast? single.symm
    exact named last
  have start : tree.start path = tree.start (Path.withoutEndSlashes path) := by
    rw [FileTree.start, FileTree.start, rooted filled]
  have leadsOn : (before ++ [part]).foldlM tree.follow
      (tree.start (Path.withoutEndSlashes path)) = .ok place := by
    rw [List.foldlM_append, inside]
    exact bind_eq_ok_iff.2 ⟨around, rfl, bind_eq_ok_iff.2 ⟨place, follows, rfl⟩⟩
  rw [whole, parts, start, List.foldlM_append, leadsOn] at through
  have same : found.1 = place := foldlM_follow_blanks all through
  rw [same, free] at entry
  cases entry

/-- A folder that is there is not made. -/
theorem makeFolders_of_present {base : String}
    (present : base = "" ∨ tree.status base = .ok .folder) :
    (Files.makeFolders base : StateM FileTree _).run tree = (.ok (), tree) := by
  rcases present with rfl | isFolder
  · rfl
  · rw [Files.makeFolders, Files.makeFoldersWithin]
    split
    · rfl
    · have kept : (Files.ensureFolder base : StateM FileTree _).run tree = (.ok (), tree) := by
        have refused : ∃ fault, tree.makeFolder base = .error fault := by
          cases made : tree.makeFolder base with
          | error fault => exact ⟨fault, rfl⟩
          | ok changed =>
            rw [status] at isFolder
            cases there : tree.find base with
            | error fault =>
              rw [there] at isFolder
              cases isFolder
            | ok found => exact absurd there (find_ne_ok_of_makeFolder made found)
        obtain ⟨fault, fails⟩ := refused
        have run : (Files.makeFolder base : StateM FileTree _).run tree = (.error fault, tree) := by
          show step (·.makeFolder base) tree = _
          rw [step, fails]
        rw [Files.ensureFolder, run_bind_of_run run]
        dsimp only
        rw [run_bind_of_run (run_isFolder tree base), isFolder]
        rfl
      rw [run_bind_of_run kept]
      rfl

/-! ## Writing files -/

/-- A path below a folder has no slashes at its end. -/
theorem withoutEndSlashes_join {base part : String} (flat : Path.IsFlat part) :
    Path.withoutEndSlashes (Path.join base part) = Path.join base part := by
  obtain ⟨front, c, text⟩ : ∃ front c, part.toList = front ++ [c] :=
    ⟨_, _, (List.dropLast_concat_getLast (mt String.toList_eq_nil_iff.1 flat.filled)).symm⟩
  have other : c ≠ '/' := by
    rintro rfl
    exact flat.single (by simp [text])
  have whole : (Path.join base part).toList =
      (base ++ Path.separator base).toList ++ front ++ [c] := by
    rw [flat.join_eq, String.toList_append, text, List.append_assoc]
  rw [Path.withoutEndSlashes, whole, List.reverse_append]
  simp only [List.reverse_singleton, List.singleton_append]
  rw [List.dropWhile_cons_of_neg (by simp [other]), ← List.singleton_append,
    ← List.reverse_singleton, ← List.reverse_append, List.reverse_reverse, ← whole]
  exact String.ofList_toList

/-- A file below a folder can be written if the folder is there and no other folder in its place. -/
theorem placeForFile_join {base part : String} (flat : Path.IsFlat part)
    (shown : part.toList.head? ≠ some '.') {place : Place}
    (placed : tree.placeForFile (Path.join base part) = .ok place) :
    pathFault? (Path.join base part) = none ∧ ¬partLimit < part.utf8ByteSize ∧
      ∃ around, tree.folder base = .ok around ∧ place = part :: around ∧
        tree.entry? place ≠ some .folder := by
  rw [placeForFile, if_neg (flat.join_ne_empty base), withoutEndSlashes_join flat] at placed
  obtain ⟨⟨outer, last⟩, leads, rest⟩ := bind_eq_ok_iff.1 placed
  obtain ⟨around, here, ends⟩ := bind_eq_ok_iff.1 rest
  obtain ⟨sound, before, parts, inside⟩ := locateLast_eq_ok_iff.1 leads
  rw [flat.rawParts_join] at parts
  obtain ⟨rfl, same⟩ := List.append_inj' parts rfl
  obtain rfl := List.singleton_inj.1 same
  have start : tree.start (Path.join base part) = tree.start base := by
    rw [FileTree.start, FileTree.start, flat.isRooted_join]
  rw [start] at inside
  have reached : tree.folder base = .ok around := bind_eq_ok_iff.2 ⟨outer, inside, here⟩
  have leadsOn := follow_of_folder flat shown (folder_eq_ok_iff.1 reached).2
  split at ends
  · cases ends
  · obtain ⟨other, follows, last⟩ := bind_eq_ok_iff.1 ends
    rw [leadsOn] at follows
    split at follows
    · cases follows
    · rename_i short
      obtain rfl := Except.ok.inj follows
      split at last
      · cases last
      · rename_i free
        refine ⟨sound, short, around, reached, (Except.ok.inj last).symm, ?_⟩
        intro there
        rw [← Except.ok.inj last] at there
        rw [there] at free
        exact free rfl

end FileTree

end NoteTemplate
