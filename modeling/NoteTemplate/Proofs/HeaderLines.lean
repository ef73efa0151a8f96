import Mathlib.Data.List.TakeWhile
import NoteTemplate.Document

/-!
# The lines of a header

A header is cut off between lines: a text has one exactly when its first line is a delimiter and so
is a later one, and the header ends at the first such line (`headerBlock?_eq_some_iff`).
-/

namespace NoteTemplate

/-- The lines of a header block: none, or a delimiter, lines that are none, and another
delimiter. -/
inductive HeaderBlock : List (List Char) → Prop where
  /-- There is no header. -/
  | none : HeaderBlock []
  /-- There is one. -/
  | lines {opening closing : List Char} {yaml : List (List Char)}
      (opens : isHeaderDelimiter opening = true)
      (inner : ∀ line ∈ yaml, isHeaderDelimiter line = false)
      (closes : isHeaderDelimiter closing = true) : HeaderBlock (opening :: (yaml ++ [closing]))

/-- Lines up to the first one of a class are cut off there. -/
theorem takeWhile_dropWhile_cut {α : Type} (test : α → Bool) {front : List α} {stop : α}
    (back : List α) (before : ∀ one ∈ front, test one = true) (here : test stop = false) :
    (front ++ stop :: back).takeWhile test = front ∧
      (front ++ stop :: back).dropWhile test = stop :: back := by
  have stops : ¬ test stop = true := by simp [here]
  constructor
  · rw [List.takeWhile_append_of_pos before, List.takeWhile_cons_of_neg stops, List.append_nil]
  · rw [List.dropWhile_append_of_pos before, List.dropWhile_cons_of_neg stops]

/-- A text has a header exactly when its lines are a delimiter, lines that are none, and another
delimiter in front of the rest. -/
theorem headerBlock?_eq_some_iff {text yaml body : List Char} :
    headerBlock? text = some (yaml, body) ↔
      ∃ opening inner closing below, Text.lines text = opening :: (inner ++ closing :: below) ∧
        isHeaderDelimiter opening = true ∧ (∀ line ∈ inner, isHeaderDelimiter line = false) ∧
        isHeaderDelimiter closing = true ∧ yaml = inner.flatten ∧ body = below.flatten := by
  constructor
  · intro found
    unfold headerBlock? at found
    split at found
    · cases found
    · rename_i opening rest cut
      split at found
      · rename_i opens
        split at found
        · cases found
        · rename_i closing below dropped
          obtain ⟨rfl, rfl⟩ := Prod.mk.inj (Option.some.inj found)
          refine ⟨opening, rest.takeWhile (!isHeaderDelimiter ·), closing, below, ?_, opens, ?_,
            ?_, rfl, rfl⟩
          · rw [cut, ← dropped, List.takeWhile_append_dropWhile]
          · intro line member
            simpa using List.mem_takeWhile_imp member
          · have stops := List.head?_dropWhile_not (!isHeaderDelimiter ·) rest
            rw [dropped] at stops
            simpa using stops
      · cases found
  · rintro ⟨opening, inner, closing, below, cut, opens, none, closes, rfl, rfl⟩
    have before : ∀ line ∈ inner, (!isHeaderDelimiter line) = true :=
      fun line member => by simp [none line member]
    have here : (!isHeaderDelimiter closing) = false := by simp [closes]
    have parts := takeWhile_dropWhile_cut (!isHeaderDelimiter ·) below before here
    unfold headerBlock?
    rw [cut]
    simp only [opens, if_true, parts.1, parts.2]

/-- A text with a header between two lines of hyphens is cut behind the second of them, if no line
of the header is a delimiter. -/
theorem headerBlock?_written {yaml : List Char} (ended : yaml.getLast? = some '\n')
    (inner : ∀ line ∈ Text.lines yaml, isHeaderDelimiter line = false) (body : List Char) :
    headerBlock? ("---\n".toList ++ (yaml ++ ("---\n".toList ++ body))) = some (yaml, body) := by
  have delimiter : isHeaderDelimiter "---\n".toList = true := by decide
  have hyphens : ∀ more,
      Text.lines ("---\n".toList ++ more) = "---\n".toList :: Text.lines more := by
    intro more
    have feed : "---\n".toList.getLast? = some '\n' := by decide
    rw [Text.lines_append feed]
    rfl
  have cut : Text.lines ("---\n".toList ++ (yaml ++ ("---\n".toList ++ body))) =
      "---\n".toList :: (Text.lines yaml ++ "---\n".toList :: Text.lines body) := by
    rw [hyphens, Text.lines_append ended, hyphens]
  refine headerBlock?_eq_some_iff.2 ⟨_, _, _, _, cut, delimiter, inner, delimiter, ?_, ?_⟩
  · exact (Text.lines_flatten yaml).symm
  · exact (Text.lines_flatten body).symm

namespace Split

variable {text : String} {yaml body : List Char}

/-- A text without a header is all body. -/
theorem ofText_of_none (none : headerBlock? text.toList = none) :
    ofText text = ⟨[], text, .none⟩ := by
  unfold ofText
  rw [none]

/-- The body of a text with a header is what stands behind the header, whatever its fields. -/
theorem body_of_some (found : headerBlock? text.toList = some (yaml, body)) :
    (ofText text).body = String.ofList body := by
  unfold ofText
  rw [found]
  dsimp only
  split <;> rfl

/-- A header that reads as fields gives these and no fault. -/
theorem ofText_of_fields (found : headerBlock? text.toList = some (yaml, body))
    {fields : Fields Json} (read : headerFields (String.ofList yaml) = .ok fields) :
    ofText text = ⟨fields, String.ofList body, none⟩ := by
  unfold ofText
  rw [found]
  dsimp only
  rw [read]

/-- A text is a header block with a body behind it, cut between lines. Where the block is empty,
no complete header stands at the front of the text. -/
theorem ofText_cut (text : String) :
    ∃ block, HeaderBlock block ∧ text = String.ofList block.flatten ++ (ofText text).body ∧
      Text.lines text.toList = block ++ Text.lines (ofText text).body.toList ∧
      (block = [] → headerBlock? text.toList = none) := by
  cases found : headerBlock? text.toList with
  | none =>
    rw [ofText_of_none found]
    exact ⟨[], .none, by simp, rfl, fun _ => rfl⟩
  | some parts =>
    obtain ⟨yaml, body⟩ := parts
    obtain ⟨opening, inner, closing, below, cut, opens, none, closes, -, rfl⟩ :=
      headerBlock?_eq_some_iff.1 found
    have regrouped : Text.lines text.toList = (opening :: (inner ++ [closing])) ++ below := by
      rw [cut]
      simp
    rw [body_of_some found]
    refine ⟨opening :: (inner ++ [closing]), .lines opens none closes, ?_, ?_, nofun⟩
    · rw [← String.ofList_append, ← List.flatten_append, ← regrouped, Text.lines_flatten,
        String.ofList_toList]
    · rw [String.toList_ofList, Text.lines_back regrouped, regrouped]

end Split

end NoteTemplate
