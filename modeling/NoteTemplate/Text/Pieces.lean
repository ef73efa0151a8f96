/-!
# Cutting texts

Cuts of a text at a character and into lines. Joining the pieces of a cut with
what separated them gives the text back. A text is its lines, one behind another
(`lines_flatten`), and behind a line feed the lines go on as those of what
follows (`lines_append`).
-/

namespace NoteTemplate.Text

/-- The pieces between the occurrences of a separator; one more than these. -/
def splitOn (separator : Char) : List Char → List (List Char)
  | [] => [[]]
  | c :: rest =>
    if c = separator then [] :: splitOn separator rest
    else
      match splitOn separator rest with
      | [] => [[c]]
      | first :: others => (c :: first) :: others

/-- A cut text has a first piece. -/
theorem splitOn_ne_nil (separator : Char) (text : List Char) :
    splitOn separator text ≠ [] := by
  cases text with
  | nil => simp [splitOn]
  | cons letter rest =>
    unfold splitOn
    split
    · simp
    · split <;> simp

/-- A text without separators is not cut. -/
theorem splitOn_of_not_mem {separator : Char} {text : List Char} (free : separator ∉ text) :
    splitOn separator text = [text] := by
  induction text with
  | nil => rfl
  | cons c text ih =>
    rw [List.mem_cons, not_or] at free
    obtain ⟨other, later⟩ := free
    rw [splitOn, if_neg (Ne.symm other), ih later]

/-- A text that is cut at a separator is cut into the pieces on both sides. -/
theorem splitOn_middle (separator : Char) (front rest : List Char) :
    splitOn separator (front ++ separator :: rest) =
      splitOn separator front ++ splitOn separator rest := by
  induction front with
  | nil => simp [splitOn]
  | cons c front ih =>
    rw [List.cons_append, splitOn, splitOn, ih]
    split
    · rfl
    · cases cut : splitOn separator front with
      | nil => exact absurd cut (splitOn_ne_nil separator front)
      | cons first others => rfl

/-- Cuts at the first occurrence of a separator, which belongs to neither part. -/
def cutAt? (separator : Char) : List Char → Option (List Char × List Char)
  | [] => none
  | c :: rest =>
    if c = separator then some ([], rest)
    else (cutAt? separator rest).map fun (before, behind) => (c :: before, behind)

/-- A text is cut at the first separator. -/
theorem cutAt?_eq_some_iff {separator : Char} {text before behind : List Char} :
    cutAt? separator text = some (before, behind) ↔
      separator ∉ before ∧ text = before ++ separator :: behind := by
  induction text generalizing before with
  | nil => simp [cutAt?]
  | cons c rest ih =>
    rw [cutAt?]
    by_cases here : c = separator
    · subst here
      cases before with
      | nil => simp [eq_comm]
      | cons d before =>
        rw [if_pos rfl]
        simp only [Option.some.injEq, Prod.mk.injEq, List.cons_append, List.cons.injEq,
          List.mem_cons, not_or]
        constructor
        · rintro ⟨⟨⟩, -⟩
        · rintro ⟨⟨different, -⟩, same, -⟩
          exact absurd same different
    · rw [if_neg here, Option.map_eq_some_iff]
      cases before with
      | nil => simp [here]
      | cons d before =>
        constructor
        · rintro ⟨⟨front, back⟩, found, pair⟩
          obtain ⟨first, rfl⟩ := Prod.mk.inj pair
          obtain ⟨rfl, rfl⟩ := List.cons.inj first
          obtain ⟨free, rfl⟩ := ih.1 found
          exact ⟨by simp [Ne.symm here, free], rfl⟩
        · rintro ⟨free, whole⟩
          rw [List.mem_cons, not_or] at free
          obtain ⟨rfl, tail⟩ := List.cons.inj whole
          exact ⟨(before, behind), ih.2 ⟨free.2, tail⟩, rfl⟩

/-- A text without a separator is not cut. -/
theorem cutAt?_eq_none {separator : Char} {text : List Char} (free : separator ∉ text) :
    cutAt? separator text = none := by
  cases cut : cutAt? separator text with
  | none => rfl
  | some parts =>
    obtain ⟨-, whole⟩ := cutAt?_eq_some_iff.1 cut
    exact absurd (whole ▸ List.mem_append_right _ List.mem_cons_self) free

/-- Puts a character in front of lines; a line feed starts a line of its own. -/
def addToLines (c : Char) (lines : List (List Char)) : List (List Char) :=
  if c = '\n' then ['\n'] :: lines
  else
    match lines with
    | [] => [[c]]
    | first :: others => (c :: first) :: others

/-- The lines of a text, each with the line feed that ends it. -/
def lines (text : List Char) : List (List Char) := text.foldr addToLines []

/-- The lines of a text, one behind another, are the text. -/
theorem lines_flatten (text : List Char) : (lines text).flatten = text := by
  induction text with
  | nil => rfl
  | cons c rest ih =>
    show (addToLines c (lines rest)).flatten = c :: rest
    unfold addToLines
    split
    · rename_i feed
      rw [List.flatten_cons, ih, feed]
      rfl
    · cases found : lines rest with
      | nil =>
        rw [found] at ih
        rw [← ih]
        rfl
      | cons first others =>
        rw [found] at ih
        rw [← ih]
        rfl

/-- The lines behind the first one are the lines of what stands behind it. -/
theorem lines_tail {text first : List Char} {rest : List (List Char)}
    (cut : lines text = first :: rest) : lines rest.flatten = rest := by
  induction text generalizing first with
  | nil => cases cut
  | cons c more ih =>
    have cut : addToLines c (lines more) = first :: rest := cut
    unfold addToLines at cut
    split at cut
    · obtain ⟨-, rfl⟩ := List.cons.inj cut
      rw [lines_flatten]
    · cases found : lines more with
      | nil =>
        rw [found] at cut
        obtain ⟨-, rfl⟩ := List.cons.inj cut
        rfl
      | cons next others =>
        rw [found] at cut
        obtain ⟨-, rfl⟩ := List.cons.inj cut
        exact ih found

/-- Lines at the back of a text are the lines of what they make up. -/
theorem lines_back {text : List Char} {front back : List (List Char)}
    (cut : lines text = front ++ back) : lines back.flatten = back := by
  induction front generalizing text with
  | nil => rw [← show lines text = back from cut, lines_flatten]
  | cons first front ih => exact ih (lines_tail cut)

/-- Behind a text that ends in a line feed the lines start anew. -/
theorem lines_append {text : List Char} (ended : text.getLast? = some '\n') (more : List Char) :
    lines (text ++ more) = lines text ++ lines more := by
  induction text with
  | nil => cases ended
  | cons c rest ih =>
    show addToLines c (lines (rest ++ more)) = addToLines c (lines rest) ++ lines more
    by_cases last : rest = []
    · subst last
      obtain rfl : c = '\n' := Option.some.inj ended
      rfl
    · have behind : rest.getLast? = some '\n' := by
        rw [List.getLast?_cons_of_ne_nil last] at ended
        exact ended
      rw [ih behind]
      cases found : lines rest with
      | nil =>
        have none := lines_flatten rest
        rw [found] at none
        exact absurd none.symm last
      | cons first others =>
        unfold addToLines
        split <;> rfl

/-- Removes a text from the front of another. -/
def dropFront? : List Char → List Char → Option (List Char)
  | [], text => some text
  | _ :: _, [] => none
  | c :: front, d :: text => if c = d then dropFront? front text else none

/-- A text is removed exactly from the front of what starts with it. -/
theorem dropFront?_eq_some_iff {front text rest : List Char} :
    dropFront? front text = some rest ↔ text = front ++ rest := by
  induction front generalizing text with
  | nil => simp [dropFront?]
  | cons c front ih =>
    cases text with
    | nil => simp [dropFront?]
    | cons d text =>
      simp only [dropFront?, List.cons_append, List.cons.injEq]
      split
      · rename_i same
        simp [ih, same]
      · rename_i different
        simp [Ne.symm different]

/-- Cuts a text right before the first occurrence of a pattern, given what was read
before the text in reverse. -/
def cutBeforeFrom? (pattern reversed : List Char) : List Char → Option (List Char × List Char)
  | [] => if pattern.isEmpty then some (reversed.reverse, []) else none
  | c :: rest =>
    if pattern.isPrefixOf (c :: rest) then some (reversed.reverse, c :: rest)
    else cutBeforeFrom? pattern (c :: reversed) rest

/-- Cuts a text right before the first occurrence of a pattern. The second part
starts with the pattern. -/
def cutBefore? (pattern text : List Char) : Option (List Char × List Char) :=
  cutBeforeFrom? pattern [] text

/-- Puts a separator between texts. -/
def joined (separator : String) (texts : List String) : String := separator.intercalate texts

end NoteTemplate.Text
