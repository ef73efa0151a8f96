/-!
# White space

The characters with the Unicode property White_Space, and the operations that
remove them from the ends of a text. Trimming has a counterpart on strings, named by
the past participle. What it leaves is the text between the white space at both ends,
and starts and ends with something else (`exists_trim`).
-/

namespace NoteTemplate.Text

/-- A character of white space. -/
def isBlank (c : Char) : Bool :=
  let n := c.toNat
  (9 ≤ n && n ≤ 13) || n == 32 || n == 0x85 || n == 0xA0 || n == 0x1680 ||
    (0x2000 ≤ n && n ≤ 0x200A) || n == 0x2028 || n == 0x2029 || n == 0x202F || n == 0x205F ||
    n == 0x3000

/-- Removes white space from the front. -/
def trimStart (text : List Char) : List Char := text.dropWhile isBlank

/-- Removes white space from the back. -/
def trimEnd (text : List Char) : List Char := (text.reverse.dropWhile isBlank).reverse

/-- Removes white space from both ends. -/
def trim (text : List Char) : List Char := trimEnd (trimStart text)

/-- A string without the white space at its ends. -/
def trimmed (text : String) : String := String.ofList (trim text.toList)

/-- A string that holds white space only, or nothing. -/
def isBlankText (text : String) : Bool := text.toList.all isBlank

/-- The text before the first white space, and the text after it without the
white space at its ends. -/
def splitWord (text : List Char) : List Char × List Char :=
  (text.takeWhile (!isBlank ·), trim (text.dropWhile (!isBlank ·)))

/-! ## What trimming leaves -/

/-- White space, or nothing. -/
def IsGap (text : List Char) : Prop := ∀ c ∈ text, isBlank c = true

/-- White space is left out in front of anything else. -/
theorem dropWhile_isBlank {gap text : List Char} (blank : IsGap gap)
    (start : ∀ c ∈ text.head?, isBlank c = false) : (gap ++ text).dropWhile isBlank = text := by
  induction gap with
  | nil =>
    cases text with
    | nil => rfl
    | cons c rest => simp [start c rfl]
  | cons c rest ih =>
    have first := blank c List.mem_cons_self
    simp only [List.cons_append, List.dropWhile_cons, first, if_true]
    exact ih fun d member => blank d (List.mem_cons_of_mem _ member)

/-- A text is white space and what follows it. -/
theorem exists_gap (text : List Char) :
    ∃ gap, IsGap gap ∧ text = gap ++ text.dropWhile isBlank := by
  refine ⟨text.takeWhile isBlank, ?_, List.takeWhile_append_dropWhile.symm⟩
  exact List.all_eq_true.1 List.all_takeWhile

/-- The text behind what was dropped does not start with what is dropped. -/
theorem not_of_head_dropWhile {p : Char → Bool} {text : List Char} :
    ∀ c ∈ (text.dropWhile p).head?, p c = false := by
  intro c member
  have head := List.head?_dropWhile_not p text
  rw [Option.mem_def.1 member] at head
  exact head

/-- A text that white space neither starts nor ends. -/
structure IsTrimmed (text : List Char) : Prop where
  /-- The first character. -/
  start : ∀ c ∈ text.head?, isBlank c = false
  /-- The last character. -/
  stop : ∀ c ∈ text.getLast?, isBlank c = false

/-- A text is white space at its ends around what trimming leaves, which is trimmed. -/
theorem exists_trim (text : List Char) :
    ∃ before behind, IsGap before ∧ IsGap behind ∧ IsTrimmed (trim text) ∧
      text = before ++ (trim text ++ behind) := by
  obtain ⟨before, front, outer⟩ := exists_gap text
  obtain ⟨behind, back, inner⟩ := exists_gap (text.dropWhile isBlank).reverse
  have whole : text.dropWhile isBlank = trim text ++ behind.reverse := by
    rw [trim, trimEnd, trimStart, ← List.reverse_append, ← inner, List.reverse_reverse]
  refine ⟨before, behind.reverse, front, fun c member => back c (List.mem_reverse.1 member),
    ⟨?_, ?_⟩, by rw [← whole, ← outer]⟩
  · intro c member
    have head : c ∈ (text.dropWhile isBlank).head? := by
      rw [whole, List.head?_append, Option.mem_def.1 member]
      rfl
    exact not_of_head_dropWhile c head
  · intro c member
    rw [trim, trimEnd, List.getLast?_reverse] at member
    exact not_of_head_dropWhile c member

/-- Trimming leaves what stands between white space. -/
theorem IsTrimmed.trim {core before behind : List Char} (sharp : IsTrimmed core)
    (filled : core ≠ []) (front : IsGap before) (back : IsGap behind) :
    trim (before ++ (core ++ behind)) = core := by
  have started : trimStart (before ++ (core ++ behind)) = core ++ behind := by
    refine dropWhile_isBlank front fun c member => sharp.start c ?_
    cases core with
    | nil => exact absurd rfl filled
    | cons d core => exact member
  have stopped : (behind.reverse ++ core.reverse).dropWhile isBlank = core.reverse := by
    refine dropWhile_isBlank (fun c member => back c (List.mem_reverse.1 member)) ?_
    rw [List.head?_reverse]
    exact sharp.stop
  rw [Text.trim, started, trimEnd, List.reverse_append, stopped, List.reverse_reverse]

/-- Trimming leaves what stands behind white space. -/
theorem IsTrimmed.trim_behind {core before : List Char} (sharp : IsTrimmed core)
    (filled : core ≠ []) (front : IsGap before) : Text.trim (before ++ core) = core := by
  have whole : Text.trim (before ++ (core ++ [])) = core :=
    sharp.trim filled front (by simp [IsGap])
  rwa [List.append_nil] at whole

/-- Trimming a trimmed text changes nothing. -/
theorem IsTrimmed.trim_eq {core : List Char} (sharp : IsTrimmed core) : Text.trim core = core := by
  cases core with
  | nil => rfl
  | cons c core =>
    have front : IsGap [] := by simp [IsGap]
    exact sharp.trim_behind (List.cons_ne_nil _ _) front

/-- White space at the back is what is removed from there. -/
theorem exists_trimEnd (text : List Char) :
    ∃ behind, IsGap behind ∧ (∀ c ∈ (trimEnd text).getLast?, isBlank c = false) ∧
      text = trimEnd text ++ behind := by
  obtain ⟨gap, blank, whole⟩ := exists_gap text.reverse
  refine ⟨gap.reverse, fun c member => blank c (List.mem_reverse.1 member), ?_, ?_⟩
  · intro c last
    rw [trimEnd, List.getLast?_reverse] at last
    exact not_of_head_dropWhile c last
  · rw [trimEnd, ← List.reverse_append, ← whole, List.reverse_reverse]

end NoteTemplate.Text
