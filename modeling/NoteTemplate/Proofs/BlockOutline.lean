import NoteTemplate.Proofs.TagReading

/-!
# The outline of a text

A text with balanced blocks is a tree: plain text and blocks, whose bodies are trees again,
with the tags kept as they are written. `outline?` reads the tree of a text, `Outline.source`
writes one out, and the two are inverse to each other on trees that are well formed. The scan
of the parts of a text accepts exactly the texts that have an outline within the limit.
-/

namespace NoteTemplate.Template

/-- A text that holds no tag of a block. -/
def IsPlain (text : List Char) : Prop := ∀ suffix, suffix <:+ text → blockTag? suffix = none

/-- An empty text is plain. -/
theorem isPlain_nil : IsPlain [] := by
  intro suffix ends
  rw [List.suffix_nil.1 ends]
  rfl

/-- The tag of a block at the front of a text is its first part. -/
theorem marks_tag {text behind : List Char} {mark : Mark}
    (found : blockTag? text = some (mark, behind)) : marks text = mark :: marks behind := by
  cases text with
  | nil => cases found
  | cons c rest =>
    rw [marks]
    split
    · rename_i other
      cases found.symm.trans other
      rfl
    · rename_i missing
      cases found.symm.trans missing

/-- Where no tag of a block stands, the text up to the next brace is a part. -/
theorem marks_literal {c : Char} {rest : List Char} (missing : blockTag? (c :: rest) = none) :
    marks (c :: rest) =
      .literal (c :: rest.takeWhile (· != '{')) :: marks (rest.dropWhile (· != '{')) := by
  rw [marks]
  split
  · rename_i found
    cases missing.symm.trans found
  · rfl

/-- A tag of a block in front of a text is its first part. -/
theorem BlockTag.marks {mark : Mark} (tag : BlockTag mark) (rest : List Char) :
    marks (mark.source ++ rest) = mark :: marks rest :=
  marks_tag (blockTag?_eq_some_iff.2 ⟨tag, rfl⟩)

/-- A tag of a block in front of a text is a seam. -/
theorem BlockTag.isSeam {mark : Mark} (tag : BlockTag mark) (rest : List Char) :
    IsSeam (mark.source ++ rest) := by
  obtain ⟨content, spelled, _⟩ := tag.content
  rw [spelled]
  exact isSeam_tag content rest

/-- What is read up to an opening brace does not hold one. -/
theorem open_not_mem_takeWhile (text : List Char) : '{' ∉ text.takeWhile (· != '{') := by
  intro member
  have other := List.all_eq_true.1 List.all_takeWhile _ member
  exact absurd other (by decide)

/-- What is read up to a brace does not reach beyond a seam. -/
theorem takeWhile_seam {rest : List Char} (seam : IsSeam rest) (text : List Char) :
    (text ++ rest).takeWhile (· != '{') = text.takeWhile (· != '{') ∧
      (text ++ rest).dropWhile (· != '{') = text.dropWhile (· != '{') ++ rest := by
  induction text with
  | nil =>
    rcases seam with rfl | ⟨later, rfl⟩
    · exact ⟨rfl, rfl⟩
    · exact ⟨rfl, rfl⟩
  | cons c text ih =>
    obtain ⟨taken, dropped⟩ := ih
    simp only [List.cons_append, List.takeWhile_cons, List.dropWhile_cons]
    split
    · exact ⟨congrArg (c :: ·) taken, dropped⟩
    · exact ⟨rfl, rfl⟩

/-- A text that is cut at a seam has the parts of its two sides. -/
theorem marks_append {rest : List Char} (seam : IsSeam rest) (text : List Char) :
    marks (text ++ rest) = marks text ++ marks rest := by
  fun_induction marks text with
  | case1 => rfl
  | case2 c tail mark behind found ih =>
    rw [marks_tag (blockTag?_append rest found), ih, List.cons_append]
  | case3 c tail missing ih =>
    have still : blockTag? (c :: (tail ++ rest)) = none := by
      rw [← List.cons_append, blockTag?_append_seam (List.cons_ne_nil _ _) seam, missing]
      rfl
    obtain ⟨taken, dropped⟩ := takeWhile_seam seam tail
    rw [List.cons_append, marks_literal still, taken, dropped, ih, List.cons_append]

/-- The parts of a text make it up. -/
theorem sourceOf_marks (text : List Char) : sourceOf (marks text) = text := by
  fun_induction marks text with
  | case1 => rfl
  | case2 c tail mark behind found ih =>
    obtain ⟨_, same⟩ := blockTag?_eq_some_iff.1 found
    rw [same]
    exact congrArg (mark.source ++ ·) ih
  | case3 c tail missing ih =>
    have split : tail.takeWhile (· != '{') ++ tail.dropWhile (· != '{') = tail :=
      List.takeWhile_append_dropWhile
    change c :: (tail.takeWhile (· != '{') ++ sourceOf (marks (tail.dropWhile (· != '{')))) = _
    rw [ih, split]

/-- A plain text has no parts but plain ones. -/
theorem IsPlain.literal {text : List Char} (plain : IsPlain text) :
    ∀ mark ∈ marks text, ∃ piece, mark = .literal piece := by
  fun_induction marks text with
  | case1 => simp
  | case2 c tail mark behind found ih => cases found.symm.trans (plain _ List.suffix_rfl)
  | case3 c tail missing ih =>
    have rest : tail.dropWhile (· != '{') <:+ c :: tail :=
      (List.dropWhile_suffix _).trans (List.suffix_cons c tail)
    intro mark member
    rcases List.mem_cons.1 member with rfl | later
    · exact ⟨_, rfl⟩
    · exact ih (fun suffix ends => plain suffix (ends.trans rest)) mark later

/-- No tag of a block starts at anything but a brace. -/
theorem blockTag?_of_ne {c : Char} (other : c ≠ '{') (rest : List Char) :
    blockTag? (c :: rest) = none := by
  cases found : blockTag? (c :: rest) with
  | none => rfl
  | some pair =>
    obtain ⟨mark, behind⟩ := pair
    obtain ⟨tag, same⟩ := blockTag?_eq_some_iff.1 found
    obtain ⟨content, spelled, _⟩ := tag.content
    rw [spelled] at same
    exact absurd (List.cons.inj same).1 other

/-- A character in front of a plain text makes a plain text, if no tag of a block starts
there. -/
theorem IsPlain.cons {c : Char} {text : List Char} (plain : IsPlain text)
    (missing : blockTag? (c :: text) = none) : IsPlain (c :: text) := by
  intro suffix ends
  rcases List.suffix_cons_iff.1 ends with rfl | inner
  · exact missing
  · exact plain suffix inner

/-- A text without opening braces in front of a plain text makes a plain text. -/
theorem IsPlain.append {piece text : List Char} (plain : IsPlain text) (free : '{' ∉ piece) :
    IsPlain (piece ++ text) := by
  induction piece with
  | nil => exact plain
  | cons c piece ih =>
    simp only [List.mem_cons, not_or] at free
    exact (ih free.2).cons (blockTag?_of_ne (Ne.symm free.1) _)

/-- A text as a tree of plain text and blocks, with the tags as they are written. -/
inductive Outline where
  /-- Plain text up to the end. -/
  | plain (text : List Char)
  /-- Plain text, a block with its tags, and what follows the block. -/
  | block (before openingTag : List Char) (name : String) (body : Outline)
      (closingTag : List Char) (after : Outline)
deriving Repr, DecidableEq

namespace Outline

/-- The text that an outline is written out to. -/
def source : Outline → List Char
  | plain text => text
  | block before openingTag _ body closingTag after =>
    before ++ (openingTag ++ (body.source ++ (closingTag ++ after.source)))

/-- How deep the blocks of an outline are nested. -/
def depth : Outline → Nat
  | plain _ => 0
  | block _ _ _ body _ after => max (body.depth + 1) after.depth

/-- The plain text of an outline holds no tags of blocks, and its tags are such tags. -/
inductive WellFormed : Outline → Prop where
  /-- Text without tags. -/
  | plain {text : List Char} (free : IsPlain text) : WellFormed (.plain text)
  /-- A block between its tags. -/
  | block {before openingTag : List Char} {name : String} {body : Outline}
      {closingTag : List Char} {after : Outline} (free : IsPlain before)
      (opens : BlockTag (.opens openingTag name)) (inner : WellFormed body)
      (closes : BlockTag (.closes closingTag)) (outer : WellFormed after) :
      WellFormed (.block before openingTag name body closingTag after)

/-- The parts of an outline. -/
def parts : Outline → List Mark
  | plain text => marks text
  | block before openingTag name body closingTag after =>
    marks before ++ .opens openingTag name :: (body.parts ++ .closes closingTag :: after.parts)

/-- An outline with plain text put in front. -/
def behind (text : List Char) : Outline → Outline
  | plain more => plain (text ++ more)
  | block before openingTag name body closingTag after =>
    block (text ++ before) openingTag name body closingTag after

/-- An outline with another at its end. -/
def followedBy : Outline → Outline → Outline
  | plain text, last => last.behind text
  | block before openingTag name body closingTag after, last =>
    block before openingTag name body closingTag (after.followedBy last)

end Outline

/-- What parts amount to from their front: an outline up to the first tag that closes a block
opened before, and for every such tag the outline that follows it. -/
def assembled? : List Mark → Option (Outline × List (List Char × Outline))
  | [] => some (.plain [], [])
  | .literal text :: rest =>
    (assembled? rest).map fun (outline, pending) => (outline.behind text, pending)
  | .closes source :: rest =>
    (assembled? rest).map fun (outline, pending) => (.plain [], (source, outline) :: pending)
  | .opens source name :: rest =>
    match assembled? rest with
    | some (body, (closingTag, after) :: pending) =>
      some (.block [] source name body closingTag after, pending)
    | _ => none

/-- The outline of a text, if its blocks are balanced. -/
def outline? (text : List Char) : Option Outline :=
  match assembled? (marks text) with
  | some (outline, []) => some outline
  | _ => none

/-- The outline of a text, if its blocks are balanced and nested within the limit. -/
def scan? (text : List Char) : Option Outline :=
  (outline? text).filter fun outline => outline.depth ≤ nestingLimit

namespace Outline

/-- The parts of a well formed outline are those of its text. -/
theorem WellFormed.marks_source {outline : Outline} (formed : outline.WellFormed) :
    marks outline.source = outline.parts := by
  induction formed with
  | plain => rfl
  | @block before openingTag name body closingTag after _ opens _ closes _ inner outer =>
    have opened : marks (openingTag ++ (body.source ++ (closingTag ++ after.source))) =
        .opens openingTag name :: marks (body.source ++ (closingTag ++ after.source)) :=
      opens.marks _
    have closed : marks (closingTag ++ after.source) = .closes closingTag :: marks after.source :=
      closes.marks _
    have opensSeam : IsSeam (openingTag ++ (body.source ++ (closingTag ++ after.source))) :=
      opens.isSeam _
    have closesSeam : IsSeam (closingTag ++ after.source) := closes.isSeam _
    rw [source, parts, marks_append opensSeam, opened, marks_append closesSeam, closed, inner,
      outer]

/-- Putting text in front of an outline puts it in front of what it is written out to. -/
theorem source_behind (text : List Char) (outline : Outline) :
    (outline.behind text).source = text ++ outline.source := by
  cases outline with
  | plain => rfl
  | block => exact List.append_assoc _ _ _

/-- Text in front of text in front of an outline is their concatenation in front. -/
theorem behind_behind (front text : List Char) (outline : Outline) :
    (outline.behind text).behind front = outline.behind (front ++ text) := by
  cases outline with
  | plain => exact congrArg plain (List.append_assoc _ _ _).symm
  | block => simp only [behind, List.append_assoc]

/-- No text in front changes nothing. -/
theorem behind_nil (outline : Outline) : outline.behind [] = outline := by
  cases outline with
  | plain => rfl
  | block => rfl

/-- An outline ends where nothing follows. -/
theorem followedBy_nil (outline : Outline) : outline.followedBy (.plain []) = outline := by
  induction outline with
  | plain text => exact congrArg plain (List.append_nil text)
  | block before openingTag name body closingTag after _ ih => rw [followedBy, ih]

end Outline

/-- Plain parts put their text in front of what follows. -/
theorem assembled?_literals {parts : List Mark} (rest : List Mark)
    (literal : ∀ mark ∈ parts, ∃ piece, mark = .literal piece) :
    assembled? (parts ++ rest) =
      (assembled? rest).map fun (outline, pending) =>
        (outline.behind (sourceOf parts), pending) := by
  induction parts with
  | nil => simp [sourceOf, Outline.behind_nil]
  | cons mark parts ih =>
    obtain ⟨piece, rfl⟩ := literal mark List.mem_cons_self
    have later := ih fun other member => literal other (List.mem_cons_of_mem _ member)
    cases found : assembled? rest with
    | none => simp [assembled?, later, found]
    | some pair =>
      simp [assembled?, later, found, Outline.behind_behind, sourceOf, Mark.source]

/-- The parts of a well formed outline assemble to the outline, followed by what the rest
assembles to. -/
theorem Outline.WellFormed.assembled?_append {outline : Outline} (formed : outline.WellFormed)
    (rest : List Mark) :
    assembled? (outline.parts ++ rest) =
      (assembled? rest).map fun (last, pending) => (outline.followedBy last, pending) := by
  induction formed generalizing rest with
  | plain free => rw [parts, assembled?_literals rest free.literal, sourceOf_marks]; rfl
  | @block before openingTag name body closingTag after free _ _ _ _ inner outer =>
    rw [parts, List.append_assoc, assembled?_literals _ free.literal, sourceOf_marks]
    simp only [List.cons_append, List.append_assoc, assembled?, inner, outer]
    cases assembled? rest with
    | none => rfl
    | some pair => simp [behind, followedBy, followedBy_nil]

/-- The text of the tags that close blocks opened before, and of what follows each. -/
def pendingSource : List (List Char × Outline) → List Char
  | [] => []
  | (closingTag, after) :: rest => closingTag ++ (after.source ++ pendingSource rest)

/-- A character at which no tag starts, and text up to the next brace, keep the outline that
follows them well formed. -/
theorem Outline.WellFormed.behind_unmarked {outline : Outline} (formed : outline.WellFormed)
    {c : Char} {piece rest : List Char} (free : '{' ∉ piece)
    (missing : blockTag? (c :: (piece ++ (outline.source ++ rest))) = none) :
    (outline.behind (c :: piece)).WellFormed := by
  -- A tag in the new front alone would still be read with the outline behind it.
  have front : ∀ before more, outline.source = before ++ more → IsPlain before →
      IsPlain (c :: (piece ++ before)) := by
    intro before more first plain
    refine (plain.append free).cons ?_
    cases found : blockTag? (c :: (piece ++ before)) with
    | none => rfl
    | some pair =>
      have longer := blockTag?_append (more ++ rest) found
      rw [List.cons_append, List.append_assoc, ← List.append_assoc before, ← first] at longer
      cases missing.symm.trans longer
  cases formed with
  | plain plain => exact .plain (front _ [] (List.append_nil _).symm plain)
  | block plain opens inner closes outer =>
    exact .block (front _ _ rfl plain) opens inner closes outer

/-- What the parts of a text assemble to is well formed and makes up the text. -/
theorem assembled?_marks (text : List Char) :
    ∀ outline pending, assembled? (marks text) = some (outline, pending) →
      outline.WellFormed ∧ text = outline.source ++ pendingSource pending ∧
        ∀ closingTag after, (closingTag, after) ∈ pending →
          BlockTag (.closes closingTag) ∧ after.WellFormed := by
  fun_induction marks text with
  | case1 =>
    rintro outline pending ⟨⟩
    exact ⟨.plain isPlain_nil, rfl, by simp⟩
  | case2 c tail mark behind found ih =>
    intro outline pending assembled
    obtain ⟨tag, same⟩ := blockTag?_eq_some_iff.1 found
    rw [same]
    cases mark with
    | literal => cases tag
    | opens openingTag name =>
      simp only [assembled?] at assembled
      split at assembled
      · rename_i body closingTag after rest inner
        cases assembled
        obtain ⟨formed, rfl, later⟩ := ih _ _ inner
        obtain ⟨closes, outer⟩ := later _ _ List.mem_cons_self
        refine ⟨.block isPlain_nil tag formed closes outer, ?_, fun closingTag after member =>
          later closingTag after (List.mem_cons_of_mem _ member)⟩
        simp [Outline.source, pendingSource, Mark.source]
      · cases assembled
    | closes closingTag =>
      obtain ⟨⟨last, rest⟩, inner, whole⟩ := Option.map_eq_some_iff.1 assembled
      cases whole
      obtain ⟨formed, rfl, later⟩ := ih _ _ inner
      refine ⟨.plain isPlain_nil, rfl, fun other after member => ?_⟩
      rcases List.mem_cons.1 member with here | there
      · cases here
        exact ⟨tag, formed⟩
      · exact later other after there
  | case3 c tail missing ih =>
    intro outline pending assembled
    obtain ⟨⟨last, rest⟩, found, whole⟩ := Option.map_eq_some_iff.1 assembled
    cases whole
    obtain ⟨formed, same, later⟩ := ih _ _ found
    have split : c :: (tail.takeWhile (· != '{') ++ (last.source ++ pendingSource pending)) =
        c :: tail := by
      rw [← same, List.takeWhile_append_dropWhile]
    refine ⟨formed.behind_unmarked (open_not_mem_takeWhile tail) (split ▸ missing), ?_, later⟩
    rw [Outline.source_behind, List.append_assoc, List.cons_append, split]

/-- A text has an outline exactly if it is what a well formed outline is written out to. -/
theorem outline?_eq_some_iff {text : List Char} {outline : Outline} :
    outline? text = some outline ↔ outline.WellFormed ∧ outline.source = text := by
  constructor
  · intro found
    unfold outline? at found
    split at found
    · rename_i whole assembled
      cases found
      obtain ⟨formed, same, _⟩ := assembled?_marks text _ _ assembled
      exact ⟨formed, by rw [same, pendingSource, List.append_nil]⟩
    · cases found
  · rintro ⟨formed, rfl⟩
    have whole := formed.assembled?_append []
    rw [List.append_nil] at whole
    simp [outline?, formed.marks_source, whole, assembled?, Outline.followedBy_nil]

/-- Balanced parts assemble to something, with as many tags that close blocks opened before
as there are such blocks. -/
theorem assembled?_of_isBalanced {parts : List Mark} :
    ∀ {depth : Nat}, isBalanced depth parts = true →
      ∃ outline pending, assembled? parts = some (outline, pending) ∧ pending.length = depth := by
  induction parts with
  | nil =>
    intro depth balanced
    exact ⟨_, _, rfl, (of_decide_eq_true balanced).symm⟩
  | cons mark parts ih =>
    intro depth balanced
    cases mark with
    | literal text =>
      obtain ⟨outline, pending, assembled, length⟩ := ih balanced
      exact ⟨_, pending, by rw [assembled?, assembled]; rfl, length⟩
    | opens openingTag name =>
      simp only [isBalanced, Bool.and_eq_true] at balanced
      obtain ⟨outline, pending, assembled, length⟩ := ih balanced.2
      cases pending with
      | nil => cases length
      | cons first pending =>
        exact ⟨_, pending, by rw [assembled?, assembled], Nat.succ.inj length⟩
    | closes closingTag =>
      cases depth with
      | zero => cases balanced
      | succ depth =>
        obtain ⟨outline, pending, assembled, length⟩ := ih balanced
        refine ⟨.plain [], (closingTag, outline) :: pending, ?_, congrArg Nat.succ length⟩
        rw [assembled?, assembled]
        rfl

/-- Plain parts do not change what is balanced. -/
theorem isBalanced_literals {parts : List Mark} (rest : List Mark) (depth : Nat)
    (literal : ∀ mark ∈ parts, ∃ piece, mark = .literal piece) :
    isBalanced depth (parts ++ rest) = isBalanced depth rest := by
  induction parts with
  | nil => rfl
  | cons mark parts ih =>
    obtain ⟨piece, rfl⟩ := literal mark List.mem_cons_self
    exact ih fun other member => literal other (List.mem_cons_of_mem _ member)

/-- An outline is balanced inside other blocks if it is not nested too deep there. -/
theorem Outline.WellFormed.isBalanced_append {outline : Outline} (formed : outline.WellFormed) :
    ∀ {depth : Nat} (rest : List Mark), depth ≤ nestingLimit →
      isBalanced depth (outline.parts ++ rest) =
        (decide (depth + outline.depth ≤ nestingLimit) && isBalanced depth rest) := by
  induction formed with
  | plain free =>
    intro depth rest within
    simp [parts, isBalanced_literals rest depth free.literal, Outline.depth, within]
  | @block before openingTag name body closingTag after free _ _ _ _ inner outer =>
    intro depth rest within
    rw [parts, List.append_assoc, isBalanced_literals _ _ free.literal]
    simp only [List.cons_append, List.append_assoc, isBalanced, Outline.depth]
    by_cases room : depth < nestingLimit
    · rw [inner _ room, isBalanced, outer _ within]
      have both : (depth + 1 + body.depth ≤ nestingLimit ∧ depth + after.depth ≤ nestingLimit) ↔
          depth + max (body.depth + 1) after.depth ≤ nestingLimit := by omega
      simp only [room, decide_true, Bool.true_and, ← both, Bool.decide_and, Bool.and_assoc]
    · have full : ¬ depth + max (body.depth + 1) after.depth ≤ nestingLimit := by omega
      simp [room, full]

/-- The blocks of a text are balanced and nested within the limit exactly if it has an outline
that is. -/
theorem isBalanced_marks (text : List Char) :
    isBalanced 0 (marks text) = (scan? text).isSome := by
  cases found : outline? text with
  | some outline =>
    obtain ⟨formed, rfl⟩ := outline?_eq_some_iff.1 found
    have balanced := formed.isBalanced_append [] (Nat.zero_le nestingLimit)
    rw [List.append_nil] at balanced
    rw [formed.marks_source, balanced, scan?, found]
    by_cases within : outline.depth ≤ nestingLimit
    · simp [isBalanced, within]
    · simp [isBalanced, within]
  | none =>
    cases balanced : isBalanced 0 (marks text) with
    | false => simp [scan?, found]
    | true =>
      obtain ⟨outline, pending, assembled, length⟩ := assembled?_of_isBalanced balanced
      obtain rfl := List.eq_nil_of_length_eq_zero length
      simp [outline?, assembled] at found

/-- The scan gives the well formed outlines within the limit. -/
theorem scan?_eq_some_iff {text : List Char} {outline : Outline} :
    scan? text = some outline ↔
      outline.WellFormed ∧ outline.source = text ∧ outline.depth ≤ nestingLimit := by
  rw [scan?, Option.filter_eq_some_iff, outline?_eq_some_iff, decide_eq_true_eq, and_assoc]

end NoteTemplate.Template
