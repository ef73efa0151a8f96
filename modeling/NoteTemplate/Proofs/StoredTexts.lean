import Mathlib.Data.List.Basic
import NoteTemplate.Proofs.FolderWrites
import NoteTemplate.Proofs.Session

/-!
# Texts that are stored

A store gives back what was written into it (`stores_give_back`). In memory this holds of every
text. In a folder a write takes its steps one after another (`FolderStore.Wrote`), and each of them
says what changes: folders are added, one file is put, and everything else is found as before. A
template is read by its path, so what a store says of a template follows from what its path leads
to (`FolderStore.look_congr`). Reading is limited to texts of a certain size and writing is not, so
a larger text is stored and listed, but never read.
-/

namespace NoteTemplate

/-- The bytes of a text are read as the text. -/
theorem fromUTF8?_toUTF8 (text : String) : String.fromUTF8? text.toUTF8 = some text := by
  have valid : text.toUTF8.IsValidUTF8 := text.isValidUTF8
  rw [String.fromUTF8?, dif_pos valid]
  rfl

/-- A shelf lists a template once, and where its name belongs. -/
def Shelf.Lists (shelf : Shelf) (name : String) : Prop :=
  ∃ names, shelf.names = .ok names ∧ names.Pairwise (· < ·) ∧ name ∈ names

/-- Two shelves have the same text and stamp for a template. -/
def Shelf.AgreesOn (shelf other : Shelf) (name : String) : Prop :=
  shelf.read name = other.read name ∧ shelf.modified name = other.modified name

namespace FolderStore

variable {store : FolderStore} {tree made changed : FileTree} {name text : String} {around : Place}

/-! ## What a store says of a template -/

/-- A store in a folder tells when the file of a template was modified. -/
theorem modified_shelfIn (store : FolderStore) (tree : FileTree) (name : String) :
    (store.shelfIn tree).modified name =
      (tree.look store name).map fun found => found.map StoredFile.modified := by
  rw [shelfIn, run_shelf, ← FileTree.look_content]
  rfl

/-- A store in a folder reads the file of a template. -/
theorem read_shelfIn (store : FolderStore) (tree : FileTree) (name : String) :
    (store.shelfIn tree).read name = do
      match ← tree.look store name with
      | none => return none
      | some file => return some ⟨← file.text, file.modified⟩ := by
  rw [shelfIn, run_shelf, ← FileTree.look_content]
  rfl

/-- A template whose path leads to the same in two trees is the same in both. -/
theorem look_congr (same : isTemplateName name = true →
      changed.find (Path.join store.base (templateFileName name)) =
        tree.find (Path.join store.base (templateFileName name))) :
    changed.look store name = tree.look store name := by
  cases allowed : isTemplateName name with
  | false =>
    obtain ⟨rejection, refused⟩ := checkName_of_refused allowed
    simp only [FileTree.look, templatePath, refused]
    rfl
  | true =>
    rw [FileTree.look_of_isTemplateName store allowed,
      FileTree.look_of_isTemplateName store allowed]
    simp only [FileTree.status, FileTree.readFile, FileTree.text, FileTree.bytes, same allowed]

/-- An empty path leads nowhere, so nothing is listed for it. -/
theorem names_of_empty (empty : store.base = "") (tree : FileTree) :
    (store.shelfIn tree).names = .ok [] := by
  have absent : tree.status store.base = .error .missing := by
    rw [empty]
    rfl
  rw [names_shelfIn, absent]
  rfl

/-- A template that is found alike in two trees has the same text and stamp there. -/
theorem agreesOn_of_look (same : changed.look store name = tree.look store name) :
    (store.shelfIn changed).AgreesOn (store.shelfIn tree) name := by
  constructor
  · rw [read_shelfIn, read_shelfIn, same]
  · rw [modified_shelfIn, modified_shelfIn, same]

/-! ## What a write does to the files -/

/-- The steps of a write that succeeds. -/
structure Wrote (store : FolderStore) (name text : String) (tree made : FileTree) (around : Place)
    (changed : FileTree) : Prop where
  /-- The name is allowed. -/
  allowed : isTemplateName name = true
  /-- The folder is made. -/
  folders : (Files.makeFolders store.base : StateM FileTree _).run tree = (.ok (), made)
  /-- The path of the file is not at fault. -/
  sound : pathFault? (Path.join store.base (templateFileName name)) = none
  /-- The name of the file is not too long. -/
  short : ¬partLimit < (templateFileName name).utf8ByteSize
  /-- The path of the folder leads to a folder. -/
  reached : made.folder store.base = .ok around
  /-- No other folder lies where the file is put. -/
  free : made.entry? (templateFileName name :: around) ≠ some .folder
  /-- The file is put into the folder. -/
  put : changed = made.put (templateFileName name :: around) (.file text.toUTF8 made.now)

/-- A write that succeeds takes all its steps. -/
theorem exists_wrote
    (written : (store.write name text : StateM FileTree _).run tree = (.ok (), changed)) :
    ∃ made around, store.Wrote name text tree made around changed := by
  cases allowed : isTemplateName name with
  | false =>
    obtain ⟨rejection, refused⟩ := checkName_of_refused allowed
    have refusal : (store.write name text : StateM FileTree _).run tree =
        (.error (.rejected rejection), tree) := by
      simp only [write, templatePath, refused]
      rfl
    rw [refusal] at written
    cases written
  | true =>
    obtain ⟨flat, -, -, shown⟩ := isFlat_templateFileName allowed
    simp only [write, templatePath_of_isTemplateName store allowed] at written
    rcases folders : (Files.makeFolders store.base : StateM FileTree _).run tree with
      ⟨result, made⟩
    have created : (store.create : StateM FileTree _).run tree =
        (result.mapError fun fault => .failed .createFolder fault.message, made) := by
      rw [create, run_bind_of_run folders]
      rfl
    rw [run_bind_of_run created] at written
    cases result with
    | error fault => cases written
    | ok done =>
      have put : (Files.write (Path.join store.base (templateFileName name)) text :
          StateM FileTree _).run made =
            FileTree.step (·.write (Path.join store.base (templateFileName name)) text) made := rfl
      dsimp only [Except.mapError] at written
      rw [StateT.run_bind, put, FileTree.step, FileTree.write] at written
      cases placed : made.placeForFile (Path.join store.base (templateFileName name)) with
      | error fault =>
        rw [placed] at written
        cases written
      | ok place =>
        rw [placed] at written
        obtain ⟨sound, short, around, reached, rfl, free⟩ :=
          FileTree.placeForFile_join flat shown placed
        exact ⟨made, around, allowed, folders, sound, short, reached, free,
          (Prod.mk.inj written).2.symm⟩

namespace Wrote

variable (wrote : store.Wrote name text tree made around changed)

include wrote

/-- Up to the file only folders are added. -/
theorem grows : FileTree.Grows tree made := by
  have grown := FileTree.addsFolders_makeFolders store.base tree
  rw [wrote.folders] at grown
  exact grown

/-- What lies where behind a write. -/
theorem entry?_changed (place : Place) :
    changed.entry? place =
      if place = templateFileName name :: around then some (.file text.toUTF8 tree.now)
      else made.entry? place := by
  rw [wrote.put, FileTree.entry?_put (List.cons_ne_nil _ _), wrote.grows.now]

/-- The folders are kept. -/
theorem keepsFolders : FileTree.KeepsFolders made changed := by
  rw [wrote.put]
  exact FileTree.keepsFolders_put wrote.free _

/-- The folder is where it was made. -/
theorem folder_changed : changed.folder store.base = .ok around :=
  wrote.keepsFolders.folder wrote.reached

/-- The file of the template is found. -/
theorem find_own : changed.find (Path.join store.base (templateFileName name)) =
    .ok (templateFileName name :: around, .file text.toUTF8 tree.now) := by
  obtain ⟨flat, -, -, shown⟩ := isFlat_templateFileName wrote.allowed
  have there : changed.entry? (templateFileName name :: around) =
      some (.file text.toUTF8 tree.now) := by rw [wrote.entry?_changed, if_pos rfl]
  rw [FileTree.find_join flat shown wrote.sound, wrote.folder_changed]
  show changed.within (templateFileName name) around = _
  rw [FileTree.within, if_neg wrote.short, there]

/-- What the folder held under other names is still found there. -/
theorem find_other {other : String} (allowed : isTemplateName other = true)
    (different : other ≠ name) {found : Place × Entry}
    (there : tree.find (Path.join store.base (templateFileName other)) = .ok found) :
    changed.find (Path.join store.base (templateFileName other)) = .ok found := by
  obtain ⟨place, entry⟩ := found
  obtain ⟨flat, -, -, shown⟩ := isFlat_templateFileName allowed
  obtain ⟨located, old⟩ := FileTree.find_eq_ok_iff.1 there
  have kept : made.entry? place = some entry := wrote.grows.kept place entry old
  have before := wrote.grows.keepsFolders.find there kept
  have sound := (FileTree.locate_eq_ok_iff.1 located).1
  have inside : made.within (templateFileName other) around = .ok (place, entry) := by
    rw [FileTree.find_join flat shown sound, wrote.reached] at before
    exact before
  have elsewhere : place ≠ templateFileName name :: around := by
    rw [FileTree.place_of_within inside]
    intro places
    exact different (templateFileName_inj (List.cons.inj places).1)
  refine wrote.keepsFolders.find before ?_
  rw [wrote.entry?_changed, if_neg elsewhere, kept]

/-- Where the folder was there already, nothing else changes under other names. -/
theorem find_other_of_present {other : String} (allowed : isTemplateName other = true)
    (different : other ≠ name) (same : made = tree) :
    changed.find (Path.join store.base (templateFileName other)) =
      tree.find (Path.join store.base (templateFileName other)) := by
  obtain ⟨flat, -, -, shown⟩ := isFlat_templateFileName allowed
  cases sound : pathFault? (Path.join store.base (templateFileName other)) with
  | some fault => rw [FileTree.find_of_fault sound, FileTree.find_of_fault sound]
  | none =>
    have elsewhere : templateFileName other :: around ≠ templateFileName name :: around := by
      intro places
      exact different (templateFileName_inj (List.cons.inj places).1)
    have kept := wrote.entry?_changed (templateFileName other :: around)
    rw [if_neg elsewhere, same] at kept
    have reached := wrote.reached
    rw [same] at reached
    rw [FileTree.find_join flat shown sound, FileTree.find_join flat shown sound, reached,
      wrote.folder_changed]
    show changed.within (templateFileName other) around =
      tree.within (templateFileName other) around
    rw [FileTree.within, FileTree.within, kept]

/-- The file of the template has the size of the text and the time of the write. -/
theorem status_own : changed.status (Path.join store.base (templateFileName name)) =
    .ok (.file text.utf8ByteSize tree.now) := by
  rw [FileTree.status, wrote.find_own]
  rfl

/-! ## What a store says behind a write -/

/-- The template that was written is found with its file. -/
theorem look_own : changed.look store name =
    .ok (some ⟨tree.now, if sizeLimit < text.utf8ByteSize then
      .error (.rejected (.oversized (Path.join store.base (templateFileName name))))
      else .ok text⟩) := by
  have read : changed.text (Path.join store.base (templateFileName name)) = .ok text := by
    have bytes : changed.bytes (Path.join store.base (templateFileName name)) =
        .ok text.toUTF8 := by
      rw [FileTree.bytes, wrote.find_own]
      rfl
    simp only [FileTree.text, bytes, fromUTF8?_toUTF8]
  rw [FileTree.look_of_isTemplateName store wrote.allowed, wrote.status_own]
  simp only [FileTree.readFile, read, Except.mapError]

/-- The stamp of the template is the time of the write. -/
theorem modified_own : (store.shelfIn changed).modified name = .ok (some tree.now) := by
  rw [modified_shelfIn, wrote.look_own]
  rfl

/-- The text is read unless it is too large. -/
theorem read_own : (store.shelfIn changed).read name =
    if sizeLimit < text.utf8ByteSize then
      .error (.rejected (.oversized (Path.join store.base (templateFileName name))))
    else .ok (some ⟨text, tree.now⟩) := by
  rw [read_shelfIn, wrote.look_own]
  by_cases large : sizeLimit < text.utf8ByteSize
  · simp only [if_pos large]
    rfl
  · simp only [if_neg large]
    rfl

/-- The template is listed, unless the path of the folder is empty. -/
theorem lists_own (filled : store.base ≠ "") : (store.shelfIn changed).Lists name := by
  have flat := (isFlat_templateFileName wrote.allowed).1
  have dot := pathFault?_dot wrote.allowed wrote.sound
  have present : (changed.status store.base).isOk := by
    rw [FileTree.status, FileTree.find_of_folder filled (pathFault?_base flat wrote.sound)
      wrote.folder_changed]
    rfl
  obtain ⟨fileNames, listed⟩ : ∃ fileNames, changed.names (Path.join store.base ".") =
      .ok fileNames := by
    rw [FileTree.names, FileTree.find_dot dot, wrote.folder_changed]
    exact ⟨_, rfl⟩
  refine ⟨(changed.readFiles store.base fileNames).names, ?_, ?_, ?_⟩
  · rw [names_shelfIn, if_pos present, listed]
    rfl
  · exact ascending_readFiles changed store.base fileNames
  · have member : templateFileName name ∈ fileNames := by
      rw [FileTree.mem_names_iff wrote.folder_changed dot listed, wrote.entry?_changed, if_pos rfl]
      rfl
    exact FileTree.mem_names_readFiles.2 ⟨wrote.allowed, member, _, _, wrote.status_own⟩

/-- A template that was there before has the text and the stamp that it had. -/
theorem agreesOn_of_there {other : String} (different : other ≠ name) {stamp : Stamp}
    (there : (store.shelfIn tree).modified other = .ok (some stamp)) :
    (store.shelfIn changed).AgreesOn (store.shelfIn tree) other := by
  have same : changed.look store other = tree.look store other := by
    apply look_congr
    intro allowed
    rw [modified_shelfIn, FileTree.look_of_isTemplateName store allowed, FileTree.status] at there
    cases found : tree.find (Path.join store.base (templateFileName other)) with
    | error fault =>
      rw [found] at there
      cases fault <;> cases there
    | ok place => exact wrote.find_other allowed different found
  exact agreesOn_of_look same

/-- Where the folder was there before, every other template has the text and the stamp that it
had, and every other name leads to nothing new. -/
theorem agreesOn_of_present {other : String} (different : other ≠ name)
    (present : store.base = "" ∨ tree.status store.base = .ok .folder) :
    (store.shelfIn changed).AgreesOn (store.shelfIn tree) other := by
  have folders := FileTree.makeFolders_of_present present
  rw [wrote.folders] at folders
  have unchanged : made = tree := (Prod.mk.inj folders).2
  have same : changed.look store other = tree.look store other :=
    look_congr fun allowed => wrote.find_other_of_present allowed different unchanged
  exact agreesOn_of_look same

end Wrote

end FolderStore

/-! ## Stores in memory -/

/-- An operation keeps a store in the order of its names. -/
theorem StoreStep.sorted_run {store : MemoryStore} (sorted : Fields.Sorted store.templates)
    (step : StoreStep) : Fields.Sorted (step.run store).2.templates := by
  have inserted : ∀ (store : MemoryStore) (name text : String) (modified : Stamp),
      Fields.Sorted store.templates →
        Fields.Sorted (store.insertAt name text modified).2.templates := by
    intro store name text modified sorted
    rw [MemoryStore.insertAt]
    split
    · exact sorted
    · exact Fields.insert_sorted sorted
  cases step with
  | write name text => exact inserted { store with clock := store.clock + 1 } name text _ sorted
  | insertAt name text modified => exact inserted store name text modified sorted
  | remove name => exact Fields.erase_sorted sorted

namespace MemoryStore

/-- A new store behind some operations. -/
def behind (steps : List StoreStep) : MemoryStore :=
  steps.foldl (fun store step => (step.run store).2) {}

/-- A store is always in the order of its names. -/
theorem sorted_behind (steps : List StoreStep) : Fields.Sorted (behind steps).templates := by
  have run : ∀ store : MemoryStore, Fields.Sorted store.templates →
      Fields.Sorted (steps.foldl (fun store step => (step.run store).2) store).templates := by
    induction steps with
    | nil => exact fun _ sorted => sorted
    | cons step rest ih => exact fun store sorted => ih _ (step.sorted_run sorted)
  exact run {} List.Pairwise.nil

/-- A store in the order of its names gives back what was written into it. -/
theorem write_gives_back {store : MemoryStore} {name text : String}
    (sorted : Fields.Sorted store.templates) (written : (store.write name text).1 = .ok ()) :
    (∃ stamp, (store.write name text).2.shelf.read name = .ok (some ⟨text, stamp⟩) ∧
      (store.write name text).2.shelf.modified name = .ok (some stamp)) ∧
    (store.write name text).2.shelf.contains name = .ok true ∧
    (store.write name text).2.shelf.Lists name ∧
    ∀ other, other ≠ name → (store.write name text).2.shelf.AgreesOn store.shelf other := by
  cases allowed : isTemplateName name with
  | false =>
    obtain ⟨rejection, refused⟩ := checkName_of_refused allowed
    simp only [write, insertAt, refused] at written
    cases written
  | true =>
    have own : (store.write name text).2.stored? name = some ⟨text, store.clock + 1⟩ := by
      rw [stored?_write allowed, if_pos rfl]
    have read : (store.write name text).2.shelf.read name =
        .ok (some ⟨text, store.clock + 1⟩) :=
      (look_of_isTemplateName allowed).trans (congrArg _ own)
    have modified : (store.write name text).2.shelf.modified name =
        .ok (some (store.clock + 1)) := by
      show ((store.write name text).2.shelf.read name).map _ = _
      rw [read]
      rfl
    have stillSorted := (StoreStep.write name text).sorted_run sorted
    refine ⟨⟨_, read, modified⟩, ?_, ⟨_, rfl, List.pairwise_map.2 stillSorted, ?_⟩, ?_⟩
    · exact (contains_iff _ _).2 ⟨allowed, by rw [own]; rfl⟩
    · exact (mem_names_write allowed).2 (.inl rfl)
    · intro other different
      have same : (store.write name text).2.stored? other = store.stored? other := by
        rw [stored?_write allowed, if_neg different]
      exact shelf_congr same

end MemoryStore

/-- A store gives back what was written into it. In memory, whatever was done before, the text is
read with the stamp of the write. In a folder, whatever the files are, it is read unless it is
larger than a template that can be read, for a write takes texts of any size; and it is listed
unless the path of the folder is empty, for an empty path leads nowhere. The other templates have
the text and the stamp that they had, and all other files stay. -/
theorem stores_give_back (steps : List StoreStep) (store : FolderStore) (tree : FileTree)
    (name text : String) :
    (((MemoryStore.behind steps).write name text).1 = .ok () →
      let before := (MemoryStore.behind steps).shelf
      let after := ((MemoryStore.behind steps).write name text).2.shelf
      (∃ stamp, after.read name = .ok (some ⟨text, stamp⟩) ∧
        after.modified name = .ok (some stamp)) ∧
      after.contains name = .ok true ∧ after.Lists name ∧
      ∀ other, other ≠ name → after.AgreesOn before other) ∧
    ∀ changed, (store.write name text : StateM FileTree _).run tree = (.ok (), changed) →
      let before := store.shelfIn tree
      let after := store.shelfIn changed
      (text.utf8ByteSize ≤ sizeLimit → after.read name = .ok (some ⟨text, tree.now⟩)) ∧
      (sizeLimit < text.utf8ByteSize → ∃ path, store.templatePath name = .ok path ∧
        after.read name = .error (.rejected (.oversized path))) ∧
      after.modified name = .ok (some tree.now) ∧ after.contains name = .ok true ∧
      (store.base ≠ "" → after.Lists name) ∧ (store.base = "" → after.names = .ok []) ∧
      (∀ other, other ≠ name → (∃ stamp, before.modified other = .ok (some stamp)) →
        after.AgreesOn before other) ∧
      (store.base = "" ∨ tree.status store.base = .ok .folder →
        ∀ other, other ≠ name → after.AgreesOn before other) ∧
      ∃ place, changed.entry? place = some (.file text.toUTF8 tree.now) ∧
        ∀ other, other ≠ place →
          (∀ entry, tree.entry? other = some entry → changed.entry? other = some entry) ∧
          (tree.entry? other = none →
            changed.entry? other = none ∨ changed.entry? other = some .folder) := by
  constructor
  · intro written before after
    exact MemoryStore.write_gives_back (MemoryStore.sorted_behind steps) written
  · intro changed written before after
    obtain ⟨made, around, wrote⟩ := FolderStore.exists_wrote written
    have stamped : after.modified name = .ok (some tree.now) := wrote.modified_own
    have read := wrote.read_own
    refine ⟨?_, ?_, stamped, ?_, wrote.lists_own, ?_, ?_, ?_, ?_⟩
    · intro small
      rw [if_neg (Nat.not_lt.2 small)] at read
      exact read
    · intro large
      rw [if_pos large] at read
      exact ⟨_, store.templatePath_of_isTemplateName wrote.allowed, read⟩
    · rw [Shelf.contains, stamped]
      rfl
    · exact fun empty => FolderStore.names_of_empty empty changed
    · rintro other different ⟨stamp, there⟩
      exact wrote.agreesOn_of_there different there
    · intro present other different
      exact wrote.agreesOn_of_present different present
    · have place := wrote.entry?_changed (templateFileName name :: around)
      rw [if_pos rfl] at place
      refine ⟨_, place, fun other different => ?_⟩
      have same := wrote.entry?_changed other
      rw [if_neg different] at same
      rw [same]
      exact ⟨wrote.grows.kept other, wrote.grows.added other⟩

/-- A folder behind the write of its first template. -/
def firstNote (text : String) : FileTree where
  entries := [(["note.md", "notes"], .file text.toUTF8 5), (["notes"], .folder)]
  now := 5

/-- A text that is one byte too large to be read. -/
def longText : String := String.ofList (List.replicate (sizeLimit + 1) 'x')

/-- A text of single bytes has as many bytes as characters. -/
theorem utf8ByteSize_replicate (count : Nat) :
    (String.ofList (List.replicate count 'x')).utf8ByteSize = count := by
  induction count with
  | zero => rfl
  | succ count ih =>
    rw [List.replicate_succ', String.ofList_append, String.utf8ByteSize_append, ih]
    rfl

/-- Both stores take a short text and give it back. The store in a folder takes the long one as well
and then cannot read it. -/
theorem stores_give_back_first :
    (((MemoryStore.behind [.write "base" "x"]).write "note" "hi").1 = .ok () ∧
      ∃ stamp, ((MemoryStore.behind [.write "base" "x"]).write "note" "hi").2.shelf.read "note" =
        .ok (some ⟨"hi", stamp⟩)) ∧
    ((FolderStore.write ⟨"notes"⟩ "note" "hi" : StateM FileTree _).run { now := 5 } =
        (.ok (), firstNote "hi") ∧
      (FolderStore.shelfIn ⟨"notes"⟩ (firstNote "hi")).read "note" = .ok (some ⟨"hi", 5⟩) ∧
      (FolderStore.shelfIn ⟨"notes"⟩ (firstNote "hi")).Lists "note") ∧
    (FolderStore.write ⟨"notes"⟩ "note" longText : StateM FileTree _).run { now := 5 } =
        (.ok (), firstNote longText) ∧
      ∃ path, (FolderStore.shelfIn ⟨"notes"⟩ (firstNote longText)).read "note" =
        .error (.rejected (.oversized path)) := by
  have taken : ((MemoryStore.behind [.write "base" "x"]).write "note" "hi").1 = .ok () :=
    MemoryStore.write_of_isTemplateName (by decide +kernel)
  have written : ∀ text, (FolderStore.write ⟨"notes"⟩ "note" text : StateM FileTree _).run
      { now := 5 } = (.ok (), firstNote text) := fun _ => rfl
  have small : "hi".utf8ByteSize ≤ sizeLimit := by decide
  have large : sizeLimit < longText.utf8ByteSize := by
    rw [longText, utf8ByteSize_replicate]
    exact Nat.lt_succ_self sizeLimit
  obtain ⟨inMemory, inFolder⟩ :=
    stores_give_back [.write "base" "x"] ⟨"notes"⟩ { now := 5 } "note" "hi"
  obtain ⟨-, inFolderToo⟩ :=
    stores_give_back [.write "base" "x"] ⟨"notes"⟩ { now := 5 } "note" longText
  obtain ⟨⟨stamp, read, -⟩, -⟩ := inMemory taken
  obtain ⟨short, -, -, -, listed, -⟩ := inFolder _ (written "hi")
  obtain ⟨-, long, -⟩ := inFolderToo _ (written longText)
  obtain ⟨path, -, refused⟩ := long large
  exact ⟨⟨taken, stamp, read⟩, ⟨written "hi", short small, listed (by decide)⟩, written longText,
    path, refused⟩

end NoteTemplate
