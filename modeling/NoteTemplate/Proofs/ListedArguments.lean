import NoteTemplate.Proofs.TagReading
import NoteTemplate.Template.Function

/-!
# Lists of arguments

An argument is written as a text between two quotes of a kind, or as a bare number or path. A list
of arguments is written with a comma between each two and any white space around each (`listText`).
The cut at the commas outside quotes then falls at these commas only (`cutArguments_listText`), so
the arguments that are read from the list, and given to a function, are the ones that were written
(`readArguments_listText`).
-/

namespace NoteTemplate.Template

open Text (IsGap IsTrimmed exists_trim isBlank trim)

/-! ## Written arguments -/

/-- Whether a character is a quote is decided by comparison. -/
theorem isQuote_iff {c : Char} : isQuote c = true ↔ IsQuote c := by
  simp [isQuote, IsQuote]

/-- An argument in the form in which it is written. -/
inductive WrittenArgument where
  /-- A text between quotes. -/
  | quoted (mark : Char) (text : List Char)
  /-- A number or a path. -/
  | bare (text : List Char)
deriving DecidableEq

namespace WrittenArgument

/-- What is written for an argument. -/
def spelling : WrittenArgument → List Char
  | quoted mark text => mark :: (text ++ [mark])
  | bare text => text

/-- The argument that is meant. -/
def argument : WrittenArgument → Argument
  | quoted _ text => ⟨text, true⟩
  | bare text => ⟨text, false⟩

/-- A quoted text may hold anything but its own quote. A bare one is trimmed and holds neither
quotes nor commas. -/
def IsSound : WrittenArgument → Prop
  | quoted mark text => IsQuote mark ∧ mark ∉ text
  | bare text => IsTrimmed text ∧ ∀ c ∈ text, ¬ IsQuote c ∧ c ≠ ','

/-- White space neither starts nor ends what is written for an argument. -/
theorem IsSound.isTrimmed {written : WrittenArgument} (sound : written.IsSound) :
    IsTrimmed written.spelling := by
  cases written with
  | quoted mark text => exact IsQuote.isTrimmed sound.1 sound.1 text
  | bare text => exact sound.1

/-- What is written for an argument is read as the argument. -/
theorem IsSound.ofText_spelling {written : WrittenArgument} (sound : written.IsSound) :
    Argument.ofText written.spelling = written.argument := by
  cases written with
  | quoted mark text =>
    obtain ⟨isMark, -⟩ := sound
    have closed : isQuote mark = true ∧ (text ++ [mark]).getLast? = some mark :=
      ⟨isQuote_iff.2 isMark, List.getLast?_concat⟩
    simp only [spelling, argument, Argument.ofText, if_pos closed, List.dropLast_concat]
  | bare text =>
    obtain ⟨-, plain⟩ := sound
    cases text with
    | nil => rfl
    | cons c rest =>
      have unquoted : ¬ (isQuote c = true ∧ rest.getLast? = some c) := fun quoted =>
        (plain c List.mem_cons_self).1 (isQuote_iff.1 quoted.1)
      simp only [spelling, argument, Argument.ofText, if_neg unquoted]

end WrittenArgument

/-- An argument in its list, with the white space around it. -/
structure ListedArgument where
  /-- The white space in front. -/
  before : List Char
  /-- The argument. -/
  written : WrittenArgument
  /-- The white space behind it. -/
  behind : List Char

namespace ListedArgument

/-- The part of the list that is the argument's. -/
def text (listed : ListedArgument) : List Char :=
  listed.before ++ (listed.written.spelling ++ listed.behind)

/-- The argument is written in good form, with nothing but white space around it. -/
structure IsSound (listed : ListedArgument) : Prop where
  /-- The white space in front. -/
  front : IsGap listed.before
  /-- The argument. -/
  written : listed.written.IsSound
  /-- The white space behind it. -/
  back : IsGap listed.behind

/-- Trimming a part of the list leaves what is written for the argument. -/
theorem IsSound.trim_text {listed : ListedArgument} (sound : listed.IsSound) :
    trim listed.text = listed.written.spelling := by
  cases empty : listed.written.spelling with
  | nil =>
    -- An argument of no characters leaves one stretch of white space.
    have gap : IsGap listed.text := by
      intro c member
      rw [text, empty, List.nil_append] at member
      exact (List.mem_append.1 member).elim (sound.front c) (sound.back c)
    obtain ⟨before, behind, -, -, sharp, whole⟩ := exists_trim listed.text
    cases core : trim listed.text with
    | nil => rfl
    | cons c rest =>
      rw [core] at whole sharp
      have blank : isBlank c = true := gap c (by rw [whole]; simp)
      cases blank.symm.trans (sharp.start c rfl)
  | cons c rest =>
    have filled : listed.written.spelling ≠ [] := by rw [empty]; exact List.cons_ne_nil _ _
    rw [← empty]
    exact sound.written.isTrimmed.trim filled sound.front sound.back

end ListedArgument

/-- The text of a list of arguments. -/
def listText (list : List ListedArgument) : List Char :=
  [','].intercalate (list.map ListedArgument.text)

/-! ## The cut -/

/-- A text that is cut nowhere: whatever stands behind it, it goes in front of the first part of
that. -/
def IsUncut (text : List Char) : Prop :=
  ∀ (rest first : List Char) (others : List (List Char)),
    cutArguments none rest = first :: others →
      cutArguments none (text ++ rest) = (text ++ first) :: others

/-- Two texts that are not cut are not cut together. -/
theorem IsUncut.append {text more : List Char} (left : IsUncut text) (right : IsUncut more) :
    IsUncut (text ++ more) := by
  intro rest first others cut
  rw [List.append_assoc, List.append_assoc]
  exact left _ _ _ (right _ _ _ cut)

/-- A text without quotes and commas is not cut. -/
theorem isUncut_plain {text : List Char} (plain : ∀ c ∈ text, ¬ IsQuote c ∧ c ≠ ',') :
    IsUncut text := by
  intro rest first others cut
  induction text with
  | nil => exact cut
  | cons c text ih =>
    obtain ⟨⟨unquoted, noComma⟩, later⟩ := List.forall_mem_cons.1 plain
    have noQuote : ¬ isQuote c = true := fun quote => unquoted (isQuote_iff.1 quote)
    rw [List.cons_append, cutArguments]
    rw [if_neg noQuote, if_neg noComma, ih later, pushFront]
    rfl

/-- A text between quotes is not cut. -/
theorem isUncut_quoted {mark : Char} {text : List Char} (isMark : IsQuote mark)
    (free : mark ∉ text) : IsUncut (mark :: (text ++ [mark])) := by
  intro rest first others cut
  have inside : ∀ text : List Char, mark ∉ text →
      cutArguments (some mark) (text ++ mark :: rest) = (text ++ mark :: first) :: others := by
    intro text free
    induction text with
    | nil =>
      rw [List.nil_append, cutArguments]
      rw [if_pos rfl, cut, pushFront]
      rfl
    | cons c text ih =>
      rw [List.mem_cons, not_or] at free
      obtain ⟨other, later⟩ := free
      rw [List.cons_append, cutArguments]
      rw [if_neg (Ne.symm other), ih later, pushFront]
      rfl
  rw [List.cons_append, List.append_assoc, cutArguments]
  rw [if_pos (isQuote_iff.2 isMark)]
  show pushFront mark (cutArguments (some mark) (text ++ mark :: rest)) = _
  rw [inside text free, pushFront]
  simp

/-- White space is neither a quote nor a comma. -/
theorem plain_of_isGap {gap : List Char} (blank : IsGap gap) :
    ∀ c ∈ gap, ¬ IsQuote c ∧ c ≠ ',' := by
  intro c member
  constructor
  · intro quote
    cases (blank c member).symm.trans quote.not_blank
  · rintro rfl
    exact absurd (blank _ member) (by decide)

/-- The part of an argument is not cut. -/
theorem ListedArgument.IsSound.isUncut {listed : ListedArgument} (sound : listed.IsSound) :
    IsUncut listed.text := by
  have spelling : IsUncut listed.written.spelling := by
    have written := sound.written
    cases form : listed.written with
    | quoted mark text =>
      rw [form] at written
      exact isUncut_quoted written.1 written.2
    | bare text =>
      rw [form] at written
      exact isUncut_plain written.2
  have front : IsUncut listed.before := isUncut_plain (plain_of_isGap sound.front)
  have back : IsUncut listed.behind := isUncut_plain (plain_of_isGap sound.back)
  exact front.append (spelling.append back)

/-- A list is cut into the parts of its arguments. -/
theorem cutArguments_listText {listed : ListedArgument} {list : List ListedArgument}
    (sound : ∀ each ∈ listed :: list, each.IsSound) :
    cutArguments none (listText (listed :: list)) = (listed :: list).map ListedArgument.text := by
  induction list generalizing listed with
  | nil =>
    have ended : cutArguments none [] = [] :: [] := rfl
    have cut := (sound listed List.mem_cons_self).isUncut _ _ _ ended
    rw [List.append_nil] at cut
    simpa [listText] using cut
  | cons next list ih =>
    obtain ⟨first, later⟩ := List.forall_mem_cons.1 sound
    have comma : cutArguments none (',' :: listText (next :: list)) =
        [] :: (next :: list).map ListedArgument.text := by
      rw [cutArguments, ih later]
      rfl
    have cut := first.isUncut _ _ _ comma
    rw [List.append_nil] at cut
    simpa [listText, List.intercalate_cons_cons] using cut

/-! ## Reading a list -/

/-- A text with a character that is no white space is not trimmed away. -/
theorem trim_ne_nil {text : List Char} {c : Char} (member : c ∈ text) (black : isBlank c = false) :
    trim text ≠ [] := by
  intro none
  obtain ⟨before, behind, front, back, -, whole⟩ := exists_trim text
  rw [none, List.nil_append] at whole
  rw [whole] at member
  have blank : isBlank c = true := (List.mem_append.1 member).elim (front c) (back c)
  cases blank.symm.trans black

/-- A list is not white space alone, unless it is that of a single argument of no characters. -/
theorem trim_listText_ne_nil {listed : ListedArgument} {list : List ListedArgument}
    (sound : listed.IsSound)
    (filled : (listed :: list).map ListedArgument.written ≠ [.bare []]) :
    trim (listText (listed :: list)) ≠ [] := by
  cases list with
  | nil =>
    have alone : listText [listed] = listed.text := by simp [listText]
    rw [alone, sound.trim_text]
    intro empty
    cases form : listed.written with
    | quoted mark text =>
      rw [form] at empty
      cases empty
    | bare text =>
      rw [form] at empty
      obtain rfl : text = [] := empty
      exact filled (by rw [List.map_cons, form, List.map_nil])
  | cons next list =>
    have comma : ',' ∈ listText (listed :: next :: list) := by
      simp [listText, List.intercalate_cons_cons]
    exact trim_ne_nil comma (by decide)

/-- The arguments that are read from a list are the ones that it was written for, unless it was
written for a single one of no characters; and a function that is called with the list is given
these arguments. -/
theorem readArguments_listText {list : List ListedArgument} (sound : ∀ each ∈ list, each.IsSound)
    (filled : list.map ListedArgument.written ≠ [.bare []]) :
    readArguments (listText list) = list.map (·.written.argument) ∧
      ∀ lookup name, call lookup name (String.ofList (listText list)) =
        callOn lookup name (list.map (·.written.argument)) := by
  have read : readArguments (listText list) = list.map (·.written.argument) := by
    cases list with
    | nil => rfl
    | cons listed list =>
      have some := trim_listText_ne_nil (sound listed List.mem_cons_self) filled
      rw [readArguments, if_neg some, cutArguments_listText sound, List.map_map]
      apply List.map_congr_left
      intro each member
      have form := sound each member
      rw [Function.comp_apply, form.trim_text, form.written.ofText_spelling]
  refine ⟨read, fun lookup name => ?_⟩
  rw [call_eq_callOn, String.toList_ofList, read]

/-- Four arguments: a path, a text with a comma and the other quote, nothing, and an empty text. -/
theorem readArguments_listText_mixed :
    let list : List ListedArgument :=
      [⟨[' '], .bare "a.b".toList, ['\t', ' ']⟩, ⟨[], .quoted '"' "it's, so".toList, ['\n']⟩,
        ⟨[' '], .bare [], []⟩, ⟨[], .quoted '\'' [], [' ']⟩]
    listText list = " a.b\t ,\"it's, so\"\n, ,'' ".toList ∧
      (∀ each ∈ list, each.IsSound) ∧ list.map ListedArgument.written ≠ [.bare []] ∧
      readArguments " a.b\t ,\"it's, so\"\n, ,'' ".toList =
        [⟨"a.b".toList, false⟩, ⟨"it's, so".toList, true⟩, ⟨[], false⟩, ⟨[], true⟩] := by
  intro list
  have text : listText list = " a.b\t ,\"it's, so\"\n, ,'' ".toList := by decide +kernel
  have bare : ∀ {word : List Char}, IsTrimmed word → (∀ c ∈ word, ¬ IsQuote c ∧ c ≠ ',') →
      (WrittenArgument.bare word).IsSound := fun sharp plain => ⟨sharp, plain⟩
  have gap : ∀ {blank : List Char}, blank.all isBlank = true → IsGap blank :=
    fun all => List.all_eq_true.1 all
  have sound : ∀ each ∈ list, each.IsSound := by
    intro each member
    simp only [list, List.mem_cons, List.not_mem_nil, or_false] at member
    rcases member with rfl | rfl | rfl | rfl
    · exact ⟨gap rfl, bare ⟨by rintro c ⟨⟩; rfl, by rintro c ⟨⟩; rfl⟩ (by simp [IsQuote]), gap rfl⟩
    · exact ⟨gap rfl, ⟨.inl rfl, by decide⟩, gap rfl⟩
    · exact ⟨gap rfl, bare ⟨nofun, nofun⟩ nofun, gap rfl⟩
    · exact ⟨gap rfl, ⟨.inr rfl, by decide⟩, gap rfl⟩
  have filled : list.map ListedArgument.written ≠ [.bare []] := by decide
  refine ⟨text, sound, filled, ?_⟩
  rw [← text]
  exact (readArguments_listText sound filled).1

end NoteTemplate.Template
