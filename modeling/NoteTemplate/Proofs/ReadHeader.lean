import NoteTemplate.Document
import NoteTemplate.Proofs.ScannedHeader

/-!
# The fields of a written header

The tokens of a written header make up the tree of a mapping from its keys to its values. The
reader of trees takes no more than two steps for a token (`TreeReader.Ends`). A header of sound
fields, in which YAML has a value for every word, reads as these values (`read?_headerText`).
-/

namespace NoteTemplate.Yaml

open Scanner (itemTokens valueTokens fieldTokens)

/-- The tree of a text between double quotes. -/
def quotedTree (text : List Char) : Tree := .scalar none (String.ofList (folded text)) false

/-- The tree of a value. -/
def valueTree : WrittenValue → Tree
  | .word text => .scalar none (String.ofList text) true
  | .quoted text => quotedTree text
  | .noItems => .sequence none []
  | .items texts => .sequence none (texts.map quotedTree)

/-- The tree of a key. -/
def keyTree (key : List Char) : Tree := .scalar none (String.ofList key) true

/-- The trees of a field. -/
def fieldTree (field : WrittenField) : Tree × Tree := (keyTree field.key, valueTree field.value)

/-- What a collection becomes by one more node. -/
def Frame.add (frame : Frame) (tree : Tree) : Frame :=
  { frame with collection := frame.collection.add tree }

namespace TreeReader

/-- Whether a node is on its way to the collection around it. -/
def isDelivering (reader : TreeReader) : Nat :=
  match reader.task with
  | .deliver _ => 1
  | _ => 0

/-- A reader completes a node, whenever there are two steps for every token. -/
def Ends (reader : TreeReader) (result : Tree × TreeReader) : Prop :=
  ∀ steps, 2 * reader.tokens.length + reader.isDelivering ≤ steps → run steps reader = some result

section Steps

variable {reader next : TreeReader} {result : Tree × TreeReader}

/-- A reader may deliver one node at a time. -/
theorem isDelivering_le (reader : TreeReader) : reader.isDelivering ≤ 1 := by
  unfold isDelivering
  split <;> decide

/-- The start of a node is read. -/
theorem Ends.of_node {inBlock inMapping : Bool} (task : reader.task = .node inBlock inMapping)
    (read : reader.readNode? inBlock inMapping = some next)
    (fewer : next.tokens.length < reader.tokens.length) (ends : next.Ends result) :
    reader.Ends result := by
  intro steps enough
  have last := isDelivering_le next
  obtain ⟨steps, rfl⟩ : ∃ fewer, steps = fewer + 1 := Nat.exists_eq_add_one.2 (by omega)
  unfold run
  rw [task]
  simp only [read, Option.bind_some]
  exact ends steps (by omega)

/-- The reader goes on with a collection. -/
theorem Ends.of_resume (isFirst : Bool)
    (task : reader.task = if isFirst then .first else .resume)
    (read : reader.resume? isFirst = some next)
    (fewer : next.tokens.length < reader.tokens.length) (ends : next.Ends result) :
    reader.Ends result := by
  intro steps enough
  have last := isDelivering_le next
  obtain ⟨steps, rfl⟩ : ∃ fewer, steps = fewer + 1 := Nat.exists_eq_add_one.2 (by omega)
  unfold run
  rw [task]
  cases isFirst <;> simp only [read, Option.bind_some, if_true, Bool.false_eq_true, if_false] <;>
    exact ends steps (by omega)

/-- A node is handed to the collection around it. -/
theorem Ends.of_receive {tree : Tree} (task : reader.task = .deliver tree) {frame : Frame}
    {outer : List Frame} (frames : reader.frames = frame :: outer)
    (ends : (reader.receive tree frame outer).Ends result) : reader.Ends result := by
  intro steps enough
  have one : reader.isDelivering = 1 := by
    unfold isDelivering
    rw [task]
  obtain ⟨steps, rfl⟩ : ∃ fewer, steps = fewer + 1 := Nat.exists_eq_add_one.2 (by omega)
  unfold run
  rw [task, frames]
  refine ends steps ?_
  show 2 * reader.tokens.length + 0 ≤ steps
  omega

/-- A node in no collection is complete. -/
theorem Ends.of_deliver {tree : Tree} (task : reader.task = .deliver tree)
    (frames : reader.frames = []) : reader.Ends (tree, reader) := by
  intro steps enough
  have one : reader.isDelivering = 1 := by
    unfold isDelivering
    rw [task]
  obtain ⟨steps, rfl⟩ : ∃ fewer, steps = fewer + 1 := Nat.exists_eq_add_one.2 (by omega)
  unfold run
  rw [task, frames]

end Steps

/-- A reader of a document without names. -/
def reading (tokens : List Token) (task : Task) (frames : List Frame) : TreeReader where
  tokens := tokens
  task := task
  frames := frames
  handles := defaultHandles

/-- A list by indentation of which some items were read. -/
def listFrame (reversed : List Tree) : Frame := ⟨{}, .blockSequence reversed⟩

/-- A mapping by indentation of which some fields were read, and maybe a key. -/
def mappingFrame (reversed : List (Tree × Tree)) (key : Option Tree) : Frame :=
  ⟨{}, .blockMapping reversed key⟩

variable {tokens : List Token} {frame : Frame} {outer : List Frame} {result : Tree × TreeReader}

/-- A scalar is read and handed to the collection around it. -/
theorem ends_scalar {text : String} {isPlain inBlock inMapping : Bool}
    (ends : (reading tokens .resume (Frame.add frame (.scalar none text isPlain) :: outer)).Ends
      result) :
    (reading (.scalar text isPlain :: tokens) (.node inBlock inMapping) (frame :: outer)).Ends
      result := by
  have handed : (reading tokens (.deliver (.scalar none text isPlain)) (frame :: outer)).Ends
      result := Ends.of_receive rfl rfl ends
  exact Ends.of_node rfl rfl (Nat.lt_succ_self _) handed

/-- The items of a list are read, and the list is handed to the collection around it. -/
theorem ends_items (texts : List (List Char)) (isFirst : Bool) (reversed : List Tree)
    (ends : (reading tokens .resume
      (frame.add (.sequence none (reversed.reverse ++ texts.map quotedTree)) :: outer)).Ends
        result) :
    (reading (itemTokens texts ++ .blockEnd :: tokens) (if isFirst then .first else .resume)
      (listFrame reversed :: frame :: outer)).Ends result := by
  induction texts generalizing isFirst reversed with
  | nil =>
    rw [List.map_nil, List.append_nil] at ends
    have handed : (reading tokens (.deliver (.sequence none reversed.reverse))
        (frame :: outer)).Ends result := Ends.of_receive rfl rfl ends
    exact Ends.of_resume _ rfl rfl (Nat.lt_succ_self _) handed
  | cons text texts ih =>
    have more : (reading (itemTokens texts ++ .blockEnd :: tokens) .resume
        ((listFrame reversed).add (quotedTree text) :: frame :: outer)).Ends result :=
      ih false (quotedTree text :: reversed) (by simpa using ends)
    have item : (reading (.scalar (String.ofList (folded text)) false ::
        (itemTokens texts ++ .blockEnd :: tokens)) (.node true false)
          (listFrame reversed :: frame :: outer)).Ends result := ends_scalar more
    exact Ends.of_resume _ rfl rfl (Nat.lt_succ_self _) item

/-- A value is read and handed to the mapping. -/
theorem ends_value (value : WrittenValue)
    (ends : (reading tokens .resume (frame.add (valueTree value) :: outer)).Ends result) :
    (reading (valueTokens value ++ tokens) (.node true true) (frame :: outer)).Ends result := by
  cases value with
  | word text => exact ends_scalar ends
  | quoted text => exact ends_scalar ends
  | noItems =>
    have handed : (reading tokens (.deliver (.sequence none [])) (frame :: outer)).Ends result :=
      Ends.of_receive rfl rfl ends
    have inside : (reading (.flowSequenceEnd :: tokens) .first
        (⟨{}, .flowSequence []⟩ :: frame :: outer)).Ends result :=
      Ends.of_resume true rfl rfl (Nat.lt_succ_self _) handed
    exact Ends.of_node rfl rfl (Nat.lt_succ_self _) inside
  | items texts =>
    have inside : (reading (itemTokens texts ++ .blockEnd :: tokens) .first
        (listFrame [] :: frame :: outer)).Ends result := ends_items texts true [] ends
    have shape : valueTokens (.items texts) ++ tokens =
        .blockSequence :: (itemTokens texts ++ .blockEnd :: tokens) := by
      simp [valueTokens]
    rw [shape]
    exact Ends.of_node rfl rfl (Nat.lt_succ_self _) inside

/-- A field is read into the mapping. -/
theorem ends_field (field : WrittenField) (isFirst : Bool) (reversed : List (Tree × Tree))
    (ends : (reading tokens .resume
      (mappingFrame (fieldTree field :: reversed) none :: outer)).Ends result) :
    (reading (fieldTokens field ++ tokens) (if isFirst then .first else .resume)
      (mappingFrame reversed none :: outer)).Ends result := by
  have value : (reading (valueTokens field.value ++ tokens) (.node true true)
      (mappingFrame reversed (some (keyTree field.key)) :: outer)).Ends result :=
    ends_value field.value ends
  have colon : (reading (.value :: (valueTokens field.value ++ tokens)) .resume
      (mappingFrame reversed (some (keyTree field.key)) :: outer)).Ends result := by
    refine Ends.of_resume false rfl ?_ (Nat.lt_succ_self _) value
    cases field.value <;> rfl
  have key : (reading (.scalar (String.ofList field.key) true ::
      .value :: (valueTokens field.value ++ tokens)) (.node true true)
        (mappingFrame reversed none :: outer)).Ends result := ends_scalar colon
  exact Ends.of_resume _ rfl rfl (Nat.lt_succ_self _) key

/-- The fields of a header are read, and the mapping is complete. -/
theorem ends_fields (fields : List WrittenField) (isFirst : Bool) (reversed : List (Tree × Tree)) :
    ∃ last, (reading (fields.flatMap fieldTokens ++ [.blockEnd])
      (if isFirst then .first else .resume) [mappingFrame reversed none]).Ends
        (.mapping none (reversed.reverse ++ fields.map fieldTree), last) ∧
      last.tokens = [] ∧ last.serials = [] ∧ last.named = [] := by
  induction fields generalizing isFirst reversed with
  | nil =>
    refine ⟨reading [] (.deliver (.mapping none reversed.reverse)) [], ?_, rfl, rfl, rfl⟩
    have complete : (reading [] (.deliver (.mapping none reversed.reverse)) []).Ends
        (.mapping none reversed.reverse,
          reading [] (.deliver (.mapping none reversed.reverse)) []) :=
      Ends.of_deliver rfl rfl
    rw [List.map_nil, List.append_nil]
    exact Ends.of_resume _ rfl rfl (Nat.lt_succ_self _) complete
  | cons field fields ih =>
    obtain ⟨last, ends, left⟩ := ih false (fieldTree field :: reversed)
    refine ⟨last, ?_, left⟩
    rw [List.flatMap_cons, List.append_assoc]
    refine ends_field field isFirst reversed ?_
    simpa using ends

end TreeReader

/-- The tree of a header. -/
def headerTree (fields : List WrittenField) : Tree := .mapping none (fields.map fieldTree)

/-- The tokens of a header make up its tree, without names. -/
theorem ofTokens?_headerTokens (fields : List WrittenField) :
    Document.ofTokens? (headerTokens fields) = some ⟨some (headerTree fields), [], []⟩ := by
  obtain ⟨last, ends, left, serials, named⟩ := TreeReader.ends_fields fields true []
  have whole : (TreeReader.reading (headerTokens fields) (.node true false) []).Ends
      (headerTree fields, last) :=
    TreeReader.Ends.of_node rfl rfl (Nat.lt_succ_self _) ends
  have read : TreeReader.run (stepLimit (headerTokens fields))
      (TreeReader.reading (headerTokens fields) (.node true false) []) =
        some (headerTree fields, last) := by
    refine whole _ ?_
    show 2 * (headerTokens fields).length + 0 ≤ 8 * ((headerTokens fields).length + 1)
    omega
  have directives : readDirectives? false [] (headerTokens fields) =
      some ([], headerTokens fields) := rfl
  have document : readDocument? [] (headerTokens fields) =
      some (⟨some (headerTree fields), [], []⟩, []) := by
    have run : readDocument? [] (headerTokens fields) =
        (TreeReader.run (stepLimit (headerTokens fields))
          (TreeReader.reading (headerTokens fields) (.node true false) [])).bind fun ended =>
            some (⟨some ended.1, ended.2.serials, ended.2.named⟩, ended.2.tokens) := rfl
    rw [run, read, Option.bind_some]
    dsimp only
    rw [left, serials, named]
  have nonempty : (headerTokens fields).isEmpty = false := rfl
  unfold Document.ofTokens?
  simp [nonempty, directives, document, guard]

section Values

variable (document : Document)

/-- The value of a scalar without a tag. -/
theorem treeValue_scalar (depth : Nat) (text : String) (isPlain : Bool) :
    treeValue document depth (.scalar none text isPlain) =
      liftM (scalarValue? none text isPlain) := by
  cases depth <;> delta treeValue <;> rfl

/-- The value of a list without a tag. -/
theorem treeValue_sequence (depth : Nat) (items : List Tree) :
    treeValue document (depth + 1) (.sequence none items) =
      (do return .array (← items.mapM (treeValue document depth))) := by
  delta treeValue
  rfl

/-- The value of a mapping without a tag. -/
theorem treeValue_mapping (depth : Nat) (entries : List (Tree × Tree)) :
    treeValue document (depth + 1) (.mapping none entries) =
      (do
        let fields ← entries.mapM fun (key, value) => do
          let name ← keyText document key
          return (name, ← treeValue document depth value)
        return .object (Fields.ofList fields)) := by
  delta treeValue
  rfl

/-- A reading that follows no references. -/
def Plainly {α : Type} (reading : Reading α) (value : Option α) : Prop :=
  ∀ left, reading.run left = value.map (·, left)

/-- What is made of a reading that follows no references follows none. -/
theorem Plainly.map {α β : Type} {reading : Reading α} {value : Option α}
    (plainly : Plainly reading value) (make : α → β) :
    Plainly (do return make (← reading)) (value.map make) := by
  intro left
  rw [StateT.run_bind, plainly left]
  cases value <;> rfl

/-- Readings one after another that follow no references follow none. -/
theorem plainly_mapM {α β : Type} {read : α → Reading β} {value : α → Option β} {things : List α}
    (each : ∀ thing ∈ things, Plainly (read thing) (value thing)) :
    Plainly (things.mapM read) (things.mapM value) := by
  induction things with
  | nil => exact fun _ => rfl
  | cons first rest ih =>
    intro left
    have here := each first List.mem_cons_self left
    have later := ih (fun thing member => each thing (List.mem_cons_of_mem _ member)) left
    rw [List.mapM_cons, List.mapM_cons]
    cases found : value first with
    | none => simp_all
    | some one =>
      cases others : rest.mapM value <;> simp_all

end Values

end NoteTemplate.Yaml

namespace NoteTemplate

open Yaml

/-- What a value is read as. -/
def WrittenValue.json? : WrittenValue → Option Json
  | .word text => plainValue? text
  | .quoted text => some (.string (String.ofList (folded text)))
  | .noItems => some (.array [])
  | .items texts => some (.array (texts.map fun text => .string (String.ofList (folded text))))

/-- What a field is read as. -/
def WrittenField.named? (field : WrittenField) : Option (String × Json) :=
  field.value.json?.map fun value => (String.ofList field.key, value)

namespace Yaml

/-- A scalar without a tag is read plainly. -/
theorem plainly_scalar (document : Document) (depth : Nat) (text : List Char) (isPlain : Bool) :
    Plainly (treeValue document depth (.scalar none (String.ofList text) isPlain))
      (if isPlain then plainValue? text else some (.string (String.ofList text))) := by
  intro left
  rw [treeValue_scalar, scalarValue?, String.toList_ofList]
  cases isPlain with
  | true => cases plainValue? text <;> rfl
  | false => rfl

/-- The tree of a value is read as what the value is. -/
theorem plainly_valueTree (document : Document) (depth : Nat) (value : WrittenValue) :
    Plainly (treeValue document (depth + 1) (valueTree value)) value.json? := by
  cases value with
  | word text => exact plainly_scalar document (depth + 1) text true
  | quoted text => exact plainly_scalar document (depth + 1) (folded text) false
  | noItems =>
    intro left
    rw [valueTree, treeValue_sequence]
    rfl
  | items texts =>
    have each : ∀ text ∈ texts, Plainly (treeValue document depth (quotedTree text))
        (pure (Json.string (String.ofList (folded text)))) :=
      fun text _ => plainly_scalar document depth (folded text) false
    have items := (plainly_mapM each).map Json.array
    rw [List.mapM_pure] at items
    rw [valueTree, treeValue_sequence, List.mapM_map]
    exact items

/-- The tree of a field is read as what the field is. -/
theorem plainly_fieldTree (document : Document) (depth : Nat) (field : WrittenField) :
    Plainly (do
      let name ← keyText document (fieldTree field).1
      return (name, ← treeValue document (depth + 1) (fieldTree field).2)) field.named? :=
  (plainly_valueTree document depth field.value).map (String.ofList field.key, ·)

/-- The tree of a header is read as what its fields are. -/
theorem plainly_headerTree (document : Document) (depth : Nat) (fields : List WrittenField) :
    Plainly (treeValue document (depth + 2) (headerTree fields))
      ((fields.mapM WrittenField.named?).map fun named => .object (Fields.ofList named)) := by
  have each := fun (field : WrittenField) (_ : field ∈ fields) =>
    plainly_fieldTree document depth field
  have named := (plainly_mapM each).map fun named => Json.object (Fields.ofList named)
  rw [headerTree, treeValue_mapping, List.mapM_map]
  exact named

/-- A header of sound fields reads as what its fields are, with line breaks unified. -/
theorem read?_headerText {fields : List WrittenField} (some : fields ≠ [])
    (sound : ∀ field ∈ fields, field.Sound) :
    read? (String.ofList (headerText fields)) =
      (((fields.map (·.map unifyBreaks)).mapM WrittenField.named?).map fun named =>
        .object (Fields.ofList named)) := by
  unfold read?
  rw [String.toList_ofList, tokens?_headerText some sound]
  generalize fields.map (·.map unifyBreaks) = read
  rw [Option.bind_eq_bind, Option.bind_some, ofTokens?_headerTokens, Option.bind_eq_bind,
    Option.bind_some]
  unfold Document.value?
  dsimp only
  rw [show depthLimit = 126 + 2 from rfl, plainly_headerTree]
  cases read.mapM WrittenField.named? <;> rfl

end Yaml

end NoteTemplate
