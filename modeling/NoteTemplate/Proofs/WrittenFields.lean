import NoteTemplate.Proofs.HeaderLines
import NoteTemplate.Proofs.KeptLines

/-!
# Headers as templates write them

The headers of notes are written in a small part of YAML: a field is a key with a word, with a
text between double quotes, without items, or with a list of such texts, one in a line. No line of
such a header ends it early, and a change that keeps lines changes nothing of it but the texts
between double quotes (`KeepsLines.headerText`).
-/

namespace NoteTemplate

/-- A letter of a word that is written without quotes. -/
def isWordLetter (c : Char) : Bool := c.isAlphanum || c ∈ ['_', '-', '.', '+', ':']

/-- A word that is written without quotes: it starts with a letter, a digit or a hyphen in front
of something, and it does not end in a colon. -/
def isWord : List Char → Bool
  | [] => false
  | c :: rest => (c.isAlphanum || (c = '-' && !rest.isEmpty)) && (c :: rest).all isWordLetter &&
    (c :: rest).getLast? ≠ some ':'

/-- The value of a field as it is written. -/
inductive WrittenValue where
  /-- A word. -/
  | word (text : List Char)
  /-- A text between double quotes. -/
  | quoted (text : List Char)
  /-- Brackets without items. -/
  | noItems
  /-- Texts between double quotes, each in a line of its own. -/
  | items (texts : List (List Char))

/-- A field as it is written. -/
structure WrittenField where
  /-- The key. -/
  key : List Char
  /-- The value. -/
  value : WrittenValue
  /-- An empty line stands behind it. -/
  isSpaced : Bool := false

namespace WrittenValue

/-- What stands before the text of an item in its line. -/
def itemStart : List Char := [' ', ' ', '-', ' ', '"']

/-- What stands between the colon and the end of the last line. -/
def text : WrittenValue → List Char
  | .word text => ' ' :: text
  | .quoted text => ' ' :: '"' :: (text ++ ['"'])
  | .noItems => [' ', '[', ']']
  | .items texts => texts.flatMap fun text => '\n' :: (itemStart ++ text ++ ['"'])

/-- The first item stands in front of the others. -/
theorem text_items_cons (first : List Char) (texts : List (List Char)) (rest : List Char) :
    (items (first :: texts)).text ++ rest =
      '\n' :: (itemStart ++ (first ++ '"' :: ((items texts).text ++ rest))) := by
  simp [text]

/-- The value with its texts between double quotes changed. -/
def map (change : List Char → List Char) : WrittenValue → WrittenValue
  | .word text => .word text
  | .quoted text => .quoted (change text)
  | .noItems => .noItems
  | .items texts => .items (texts.map change)

/-- Every text can be written the way it is. -/
def Sound : WrittenValue → Prop
  | .word text => isWord text = true
  | .quoted text => isQuotable text = true
  | .noItems => True
  | .items texts => texts ≠ [] ∧ ∀ text ∈ texts, isQuotable text = true

end WrittenValue

namespace WrittenField

/-- The end of the last line of a field, with or without an empty line behind it. -/
def ending : Bool → List Char
  | true => ['\n', '\n']
  | false => ['\n']

/-- The text of a field. -/
def text (field : WrittenField) : List Char :=
  field.key ++ ':' :: (field.value.text ++ ending field.isSpaced)

/-- The field with its texts between double quotes changed. -/
def map (change : List Char → List Char) (field : WrittenField) : WrittenField :=
  { field with value := field.value.map change }

/-- The key is a word that starts with a letter or a digit, within the length of a key, and the
value is sound. -/
structure Sound (field : WrittenField) : Prop where
  /-- The key is a word. -/
  word : isWord field.key = true
  /-- It does not start with a hyphen. -/
  start : field.key.head?.all Char.isAlphanum = true
  /-- It is not too long for a key. -/
  short : field.key.length ≤ 1024
  /-- The value is sound. -/
  value : field.value.Sound

end WrittenField

/-- The text of a header. -/
def headerText (fields : List WrittenField) : List Char := fields.flatMap WrittenField.text

/-- A text is empty or starts with a character that is no white space. -/
def StartsBlack (text : List Char) : Prop := ∀ c ∈ text.head?, Text.isBlank c = false

section Characters

variable {c : Char}

/-- Where letters and digits lie. -/
theorem toNat_of_isAlphanum (letter : c.isAlphanum = true) :
    (48 ≤ c.toNat ∧ c.toNat ≤ 57) ∨ (65 ≤ c.toNat ∧ c.toNat ≤ 90) ∨
      (97 ≤ c.toNat ∧ c.toNat ≤ 122) := by
  have ranges : (decide (65 ≤ c.val ∧ c.val ≤ 90) ||
      decide (97 ≤ c.val) && decide (c.val ≤ 122) ||
        decide (48 ≤ c.val) && decide (c.val ≤ 57)) = true := letter
  simp only [Bool.or_eq_true, Bool.and_eq_true, decide_eq_true_eq, UInt32.le_iff_toNat_le,
    UInt32.reduceToNat] at ranges
  change (48 ≤ c.val.toNat ∧ c.val.toNat ≤ 57) ∨ (65 ≤ c.val.toNat ∧ c.val.toNat ≤ 90) ∨
    (97 ≤ c.val.toNat ∧ c.val.toNat ≤ 122)
  omega

/-- A letter or a digit takes part in no separator. -/
theorem isApart_of_isAlphanum (letter : c.isAlphanum = true) : isApart c = true := by
  have range := toNat_of_isAlphanum letter
  have black : Text.isBlank c = false := by
    simp only [Text.isBlank, Bool.or_eq_false_iff, Bool.and_eq_false_iff,
      decide_eq_false_iff_not, beq_eq_false_iff_ne]
    omega
  have noHyphen : c ≠ '-' := by
    rintro rfl
    exact absurd letter (by decide)
  have noDot : c ≠ '.' := by
    rintro rfl
    exact absurd letter (by decide)
  simp [isApart, black, noHyphen, noDot]

/-- What takes part in no separator is no white space. -/
theorem isBlank_of_isApart (apart : isApart c = true) : Text.isBlank c = false := by
  simp only [isApart, Bool.and_eq_true, Bool.not_eq_true'] at apart
  exact apart.2

/-- What is no white space ends no line. -/
theorem isLineEnd_of_black (black : Text.isBlank c = false) : isLineEnd c = false := by
  cases ends : isLineEnd c with
  | false => rfl
  | true => exact absurd (isBlank_of_isLineEnd ends) (by simp [black])

/-- A letter of a word is no white space. -/
theorem isBlank_of_isWordLetter (letter : isWordLetter c = true) : Text.isBlank c = false := by
  rcases Bool.or_eq_true_iff.1 letter with alphanumeric | sign
  · exact isBlank_of_isApart (isApart_of_isAlphanum alphanumeric)
  · simp only [List.mem_cons, List.not_mem_nil, or_false, decide_eq_true_eq] at sign
    rcases sign with rfl | rfl | rfl | rfl | rfl <;> decide

/-- A letter of a word is allowed in YAML. -/
theorem isAllowed_of_isWordLetter (letter : isWordLetter c = true) : Yaml.isAllowed c = true := by
  rcases Bool.or_eq_true_iff.1 letter with alphanumeric | sign
  · have range := toNat_of_isAlphanum alphanumeric
    have printed : 0x20 ≤ c.toNat ∧ c.toNat ≤ 0x7E := by omega
    simp [Yaml.isAllowed, printed]
  · simp only [List.mem_cons, List.not_mem_nil, or_false, decide_eq_true_eq] at sign
    rcases sign with rfl | rfl | rfl | rfl | rfl <;> decide

/-- A letter of a word stands for itself between double quotes. -/
theorem isQuotableCharacter_of_isWordLetter (letter : isWordLetter c = true) :
    isQuotableCharacter c = true := by
  have allowed := isAllowed_of_isWordLetter letter
  have noQuote : c ≠ '"' := by
    rintro rfl
    exact absurd letter (by decide)
  have noBackslash : c ≠ '\\' := by
    rintro rfl
    exact absurd letter (by decide)
  simp [isQuotableCharacter, allowed, noQuote, noBackslash]

/-- A word holds letters of words only. -/
theorem isWordLetter_of_isWord {word : List Char} (isWord : isWord word = true) :
    ∀ c ∈ word, isWordLetter c = true := by
  cases word with
  | nil => exact nofun
  | cons first rest =>
    simp only [NoteTemplate.isWord, Bool.and_eq_true] at isWord
    exact List.all_eq_true.1 isWord.1.2

/-- A word does not end in a colon. -/
theorem getLast?_of_isWord {word : List Char} (isWord : isWord word = true) :
    word.getLast? ≠ some ':' := by
  cases word with
  | nil => exact nofun
  | cons first rest =>
    simp only [NoteTemplate.isWord, Bool.and_eq_true, decide_eq_true_eq] at isWord
    exact isWord.2

/-- A word goes on within its line. -/
theorem isLineEnd_of_isWord {word : List Char} (isWord : isWord word = true) :
    ∀ c ∈ word, isLineEnd c = false := fun c member =>
  isLineEnd_of_black (isBlank_of_isWordLetter (isWordLetter_of_isWord isWord c member))

end Characters

namespace WrittenField

variable {field : WrittenField}

/-- A sound field starts with a letter or a digit. -/
theorem Sound.head (sound : field.Sound) :
    ∃ c more, field.key = c :: more ∧ c.isAlphanum = true := by
  have word := sound.word
  have start := sound.start
  cases key : field.key with
  | nil =>
    rw [key] at word
    cases word
  | cons c more =>
    rw [key] at start
    exact ⟨c, more, rfl, start⟩

/-- The text of a sound field starts with a character that is no white space. -/
theorem Sound.startsBlack (sound : field.Sound) (rest : List Char) :
    StartsBlack (field.text ++ rest) := by
  obtain ⟨c, more, key, letter⟩ := sound.head
  intro first member
  simp only [text, key, List.cons_append, List.head?_cons, Option.mem_def, Option.some.injEq]
    at member
  subst member
  exact isBlank_of_isApart (isApart_of_isAlphanum letter)

end WrittenField

/-- The text of a header is empty or starts with a character that is no white space, if what stands
behind it does. -/
theorem startsBlack_headerText {fields : List WrittenField} {rest : List Char}
    (sound : ∀ field ∈ fields, field.Sound) (black : StartsBlack rest) :
    StartsBlack (headerText fields ++ rest) := by
  cases fields with
  | nil => exact black
  | cons field more =>
    rw [headerText, List.flatMap_cons, List.append_assoc]
    exact (sound field List.mem_cons_self).startsBlack _

/-- No blank line stands in front of a text that is empty or starts with a character that is no
white space. -/
theorem dropBlankLine?_of_startsBlack {text : List Char} (black : StartsBlack text) :
    Template.dropBlankLine? text = none := by
  cases text with
  | nil => rfl
  | cons c rest => exact Template.dropBlankLine?_of_black [] rest nofun (black c rfl)

namespace KeepsLines

variable {change : List Char → List Char}

/-- Behind a line feed, a text without a blank line at its front is changed by itself. -/
theorem feed_of_none (keeps : KeepsLines change) {rest : List Char}
    (none : Template.dropBlankLine? rest = none) :
    change ('\n' :: rest) = '\n' :: change rest := by
  apply keeps.feed
  unfold Template.dropBlankLines
  rw [Template.dropBlankLinesFrom, none]
  exact Nat.zero_lt_two

/-- A single empty line stays behind a line feed. -/
theorem feed_feed (keeps : KeepsLines change) {rest : List Char} (black : StartsBlack rest) :
    change ('\n' :: '\n' :: rest) = '\n' :: '\n' :: change rest := by
  have none := dropBlankLine?_of_startsBlack black
  have one : Template.dropBlankLine? ('\n' :: rest) = some rest := rfl
  have feed : change ('\n' :: '\n' :: rest) = '\n' :: change ('\n' :: rest) := by
    apply keeps.feed
    unfold Template.dropBlankLines
    rw [Template.dropBlankLinesFrom, one]
    dsimp only
    rw [Template.dropBlankLinesFrom, none]
    exact Nat.one_lt_two
  rw [feed, keeps.feed_of_none none]

/-- A text between double quotes is changed by itself. -/
theorem quoted (keeps : KeepsLines change) (text rest : List Char) :
    change ('"' :: (text ++ '"' :: rest)) = '"' :: (change text ++ '"' :: change rest) := by
  rw [keeps.inner '"' _ (by decide), keeps.append text '"' rest (by decide),
    keeps.inner '"' rest (by decide)]

/-- Nothing of an item is changed but its text between double quotes. -/
theorem item (keeps : KeepsLines change) (text rest : List Char) :
    change ('\n' :: (WrittenValue.itemStart ++ text ++ ['"']) ++ rest) =
      '\n' :: (WrittenValue.itemStart ++ change text ++ ['"']) ++ change rest := by
  have hyphen : ∀ more, Template.dropBlankLine? (' ' :: ' ' :: '-' :: more) = none := fun more =>
    Template.dropBlankLine?_of_black [' ', ' '] more (List.all_eq_true.1 (by decide)) (by decide)
  have start : change ('\n' :: ' ' :: ' ' :: '-' :: ' ' :: '"' :: (text ++ '"' :: rest)) =
      '\n' :: ' ' :: ' ' :: '-' :: ' ' :: change ('"' :: (text ++ '"' :: rest)) := by
    rw [keeps.feed_of_none (hyphen _), keeps.inner ' ' _ (by decide), keeps.inner ' ' _ (by decide),
      keeps.inner '-' _ (by decide), keeps.inner ' ' _ (by decide)]
  simpa [WrittenValue.itemStart, keeps.quoted] using start

/-- Nothing of a value is changed but its texts between double quotes. -/
theorem valueText (keeps : KeepsLines change) {value : WrittenValue} (sound : value.Sound)
    (rest : List Char) :
    change (value.text ++ rest) = (value.map change).text ++ change rest := by
  cases value with
  | word text =>
    refine keeps.within (fun c member => ?_) rest
    rcases List.mem_cons.1 member with rfl | inner
    · decide
    · exact isLineEnd_of_isWord sound c inner
  | quoted text =>
    have start : change (' ' :: '"' :: (text ++ '"' :: rest)) =
        ' ' :: '"' :: (change text ++ '"' :: change rest) := by
      rw [keeps.inner ' ' _ (by decide), keeps.quoted]
    simpa [WrittenValue.text, WrittenValue.map] using start
  | noItems => exact keeps.within (isLineEnd_of_all (by decide)) rest
  | items texts =>
    clear sound
    induction texts with
    | nil => rfl
    | cons text texts ih =>
      have first := keeps.item text ((WrittenValue.items texts).text ++ rest)
      rw [ih] at first
      simpa [WrittenValue.text, WrittenValue.map] using first

/-- Nothing of a field is changed but its texts between double quotes. -/
theorem fieldText (keeps : KeepsLines change) {field : WrittenField} (sound : field.Sound)
    {rest : List Char} (black : StartsBlack rest) :
    change (field.text ++ rest) = (field.map change).text ++ change rest := by
  have feeds : change (WrittenField.ending field.isSpaced ++ rest) =
      WrittenField.ending field.isSpaced ++ change rest := by
    cases field.isSpaced with
    | true => exact keeps.feed_feed black
    | false => exact keeps.feed_of_none (dropBlankLine?_of_startsBlack black)
  have key : change (field.key ++ ':' :: (field.value.text ++
        (WrittenField.ending field.isSpaced ++ rest))) =
      field.key ++ ':' :: ((field.value.map change).text ++
        (WrittenField.ending field.isSpaced ++ change rest)) := by
    rw [keeps.within (isLineEnd_of_isWord sound.word), keeps.inner ':' _ (by decide),
      keeps.valueText sound.value, feeds]
  simpa [WrittenField.text, WrittenField.map] using key

/-- Nothing of a header is changed but its texts between double quotes. -/
theorem headerText (keeps : KeepsLines change) {fields : List WrittenField}
    (sound : ∀ field ∈ fields, field.Sound) {rest : List Char} (black : StartsBlack rest) :
    change (headerText fields ++ rest) =
      NoteTemplate.headerText (fields.map (·.map change)) ++ change rest := by
  induction fields with
  | nil => rfl
  | cons field fields ih =>
    have later : ∀ field ∈ fields, field.Sound := fun one member =>
      sound one (List.mem_cons_of_mem _ member)
    have first := keeps.fieldText (sound field List.mem_cons_self)
      (startsBlack_headerText later black)
    rw [ih later] at first
    simpa [NoteTemplate.headerText] using first

/-- A sound value stays sound. -/
theorem soundValue (keeps : KeepsLines change) {value : WrittenValue} (sound : value.Sound) :
    (value.map change).Sound := by
  cases value with
  | word text => exact sound
  | quoted text => exact keeps.isQuotable sound
  | noItems => exact sound
  | items texts =>
    obtain ⟨some, quotable⟩ := sound
    refine ⟨by simpa using some, fun text member => ?_⟩
    obtain ⟨old, within, rfl⟩ := List.mem_map.1 member
    exact keeps.isQuotable (quotable old within)

/-- Sound fields stay sound. -/
theorem soundFields (keeps : KeepsLines change) {fields : List WrittenField}
    (sound : ∀ field ∈ fields, field.Sound) :
    ∀ field ∈ fields.map (·.map change), field.Sound := by
  intro field member
  obtain ⟨old, within, rfl⟩ := List.mem_map.1 member
  have before := sound old within
  exact ⟨before.word, before.start, before.short, keeps.soundValue before.value⟩

end KeepsLines

section Lines

/-- A text goes on with what stands behind characters within a line, to the search for
separators. -/
theorem isUnseparated_within (text : List Char) {rest : List Char}
    (whole : ∀ c ∈ text, isLineEnd c = false)
    (unseparated : isUnseparated false rest = true) :
    isUnseparated false (text ++ rest) = true := by
  induction text with
  | nil => exact unseparated
  | cons c text ih =>
    have inner := whole c List.mem_cons_self
    have behind := ih fun d member => whole d (List.mem_cons_of_mem _ member)
    simpa [isUnseparated, inner] using behind

/-- A text between double quotes has no separators where it can be quoted. -/
theorem isUnseparated_quoted {text rest : List Char} (quotable : isQuotable text = true)
    (unseparated : isUnseparated false rest = true) :
    isUnseparated false ('"' :: (text ++ '"' :: rest)) = true := by
  have inner := (Bool.and_eq_true_iff.1 quotable).2
  have whole : isUnseparated false (text ++ '"' :: rest) = true := by
    rw [isUnseparated_append (by decide), inner, unseparated]
    rfl
  exact isUnseparated_within ['"'] (isLineEnd_of_all (by decide)) whole

/-- A sound value has no separators. -/
theorem WrittenValue.Sound.isUnseparated {value : WrittenValue} (sound : value.Sound)
    {rest : List Char} (unseparated : isUnseparated false rest = true) :
    isUnseparated false (value.text ++ rest) = true := by
  cases value with
  | word text =>
    refine isUnseparated_within _ (fun c member => ?_) unseparated
    rcases List.mem_cons.1 member with rfl | inner
    · decide
    · exact isLineEnd_of_isWord sound c inner
  | quoted text =>
    have whole := isUnseparated_within [' '] (isLineEnd_of_all (by decide))
      (isUnseparated_quoted sound unseparated)
    simpa [WrittenValue.text] using whole
  | noItems => exact isUnseparated_within _ (isLineEnd_of_all (by decide)) unseparated
  | items texts =>
    obtain ⟨-, quotable⟩ := sound
    induction texts with
    | nil => exact unseparated
    | cons text texts ih =>
      have later := ih fun one member => quotable one (List.mem_cons_of_mem _ member)
      have first := isUnseparated_within [' ', '-', ' '] (isLineEnd_of_all (by decide))
        (isUnseparated_quoted (quotable text List.mem_cons_self) later)
      have feed : isLineEnd '\n' = true := by decide
      have space : isLineEnd ' ' = false := by decide
      simpa [WrittenValue.text, WrittenValue.itemStart, NoteTemplate.isUnseparated, feed, space,
        startsSeparator, startsMarks] using first

/-- A sound field has no separators, wherever it stands. -/
theorem WrittenField.Sound.isUnseparated {field : WrittenField} (sound : field.Sound)
    {rest : List Char} (unseparated : isUnseparated true rest = true) (atStart : Bool) :
    isUnseparated atStart (field.text ++ rest) = true := by
  have feed : isLineEnd '\n' = true := by decide
  have ends : NoteTemplate.isUnseparated false (ending field.isSpaced ++ rest) = true := by
    cases field.isSpaced with
    | true =>
      simpa [ending, NoteTemplate.isUnseparated, feed, startsSeparator, startsMarks]
        using unseparated
    | false => simpa [ending, NoteTemplate.isUnseparated, feed] using unseparated
  obtain ⟨c, more, key, letter⟩ := sound.head
  have within : ∀ d ∈ more ++ [':'], isLineEnd d = false := by
    intro d member
    rcases List.mem_append.1 member with inner | colon
    · exact isLineEnd_of_isWord sound.word d (key ▸ List.mem_cons_of_mem _ inner)
    · rw [List.mem_singleton.1 colon]
      decide
  have behind := isUnseparated_within _ within (sound.value.isUnseparated ends)
  have whole : NoteTemplate.isUnseparated atStart (c :: ((more ++ [':']) ++
      (field.value.text ++ (ending field.isSpaced ++ rest)))) = true := by
    have first := isUnseparated_append (isApart_of_isAlphanum letter) atStart []
      ((more ++ [':']) ++ (field.value.text ++ (ending field.isSpaced ++ rest)))
    rw [List.nil_append] at first
    rw [first, behind]
    rfl
  simpa [text, key] using whole

/-- A header of sound fields has no separators. -/
theorem isUnseparated_headerText {fields : List WrittenField}
    (sound : ∀ field ∈ fields, field.Sound) : isUnseparated true (headerText fields) = true := by
  induction fields with
  | nil => rfl
  | cons field fields ih =>
    have later := ih fun one member => sound one (List.mem_cons_of_mem _ member)
    exact (sound field List.mem_cons_self).isUnseparated later true

/-- A text that starts with marks and white space does so with anything behind it. -/
theorem startsMarks_of_front {mark : Char} {count : Nat} {text : List Char}
    (starts : startsMarks mark count text = true) (rest : List Char) :
    startsMarks mark count (text ++ rest) = true := by
  induction text generalizing count with
  | nil => cases count <;> cases starts
  | cons c text ih =>
    cases count with
    | zero => exact starts
    | succ count =>
      obtain ⟨same, behind⟩ := Bool.and_eq_true_iff.1 starts
      exact Bool.and_eq_true_iff.2 ⟨same, ih behind⟩

/-- A text that starts with a separator does so with anything behind it. -/
theorem startsSeparator_of_front {text : List Char} (starts : startsSeparator text = true)
    (rest : List Char) : startsSeparator (text ++ rest) = true := by
  rcases Bool.or_eq_true_iff.1 starts with hyphens | dots
  · exact Bool.or_eq_true_iff.2 (.inl (startsMarks_of_front hyphens rest))
  · exact Bool.or_eq_true_iff.2 (.inr (startsMarks_of_front dots rest))

/-- No line of a text without separators starts with one, where the text starts a line. -/
theorem startsSeparator_of_mem_lines {text : List Char} (atStart : Bool)
    (unseparated : isUnseparated atStart text = true) {first : List Char}
    {others : List (List Char)} (cut : Text.lines text = first :: others) :
    (atStart = true → startsSeparator first = false) ∧
      ∀ line ∈ others, startsSeparator line = false := by
  induction text generalizing atStart first others with
  | nil => cases cut
  | cons c rest ih =>
    obtain ⟨here, behind⟩ := Bool.and_eq_true_iff.1 unseparated
    refine ⟨fun starts => ?_, ?_⟩
    · have none : startsSeparator (c :: rest) = false := by simpa [starts] using here
      have whole : first ++ others.flatten = c :: rest := by
        rw [← Text.lines_flatten (c :: rest), cut, List.flatten_cons]
      refine Bool.eq_false_iff.2 fun separator => ?_
      have longer := startsSeparator_of_front separator others.flatten
      rw [whole, none] at longer
      cases longer
    · have cut : Text.addToLines c (Text.lines rest) = first :: others := cut
      unfold Text.addToLines at cut
      cases below : Text.lines rest with
      | nil =>
        rw [below] at cut
        split at cut <;> obtain ⟨-, rfl⟩ := List.cons.inj cut <;> exact nofun
      | cons next more =>
        rw [below] at cut
        obtain ⟨head, tail⟩ := ih _ behind below
        split at cut
        · rename_i feed
          obtain ⟨-, rfl⟩ := List.cons.inj cut
          have start : isLineEnd c = true := by simp [isLineEnd, feed]
          intro line member
          rcases List.mem_cons.1 member with rfl | later
          · exact head start
          · exact tail line later
        · obtain ⟨-, rfl⟩ := List.cons.inj cut
          exact tail

/-- Every line of a text that ends in a line feed does. -/
theorem getLast?_of_mem_lines {text : List Char} (ended : text.getLast? = some '\n') :
    ∀ line ∈ Text.lines text, line.getLast? = some '\n' := by
  induction text with
  | nil => exact nofun
  | cons c rest ih =>
    show ∀ line ∈ Text.addToLines c (Text.lines rest), _
    unfold Text.addToLines
    by_cases last : rest = []
    · subst last
      obtain rfl : c = '\n' := Option.some.inj ended
      intro line member
      rw [if_pos rfl] at member
      rw [List.mem_singleton.1 member]
      rfl
    · have behind : rest.getLast? = some '\n' := by
        rw [List.getLast?_cons_of_ne_nil last] at ended
        exact ended
      have ih := ih behind
      split
      · rename_i feed
        intro line member
        rcases List.mem_cons.1 member with rfl | later
        · rfl
        · exact ih line later
      · cases below : Text.lines rest with
        | nil =>
          have none := Text.lines_flatten rest
          rw [below] at none
          exact absurd none.symm last
        | cons next more =>
          rw [below] at ih
          have ended := ih next List.mem_cons_self
          have some : next ≠ [] := by
            rintro rfl
            cases ended
          intro line member
          rcases List.mem_cons.1 member with rfl | later
          · rw [List.getLast?_cons_of_ne_nil some]
            exact ended
          · exact ih line (List.mem_cons_of_mem _ later)

/-- A line that ends a header starts with a separator, if a line feed ends it. -/
theorem startsSeparator_of_isHeaderDelimiter {line : List Char}
    (ended : line.getLast? = some '\n') (delimiter : isHeaderDelimiter line = true) :
    startsSeparator line = true := by
  have trimmed : (line.reverse.dropWhile Text.isBlank).reverse = ['-', '-', '-'] := by
    simpa [isHeaderDelimiter, Text.trimEnd] using delimiter
  have cut : line = ['-', '-', '-'] ++ (line.reverse.takeWhile Text.isBlank).reverse := by
    rw [← trimmed, ← List.reverse_append, List.takeWhile_append_dropWhile, List.reverse_reverse]
  have blank : ∀ c ∈ (line.reverse.takeWhile Text.isBlank).reverse, Text.isBlank c = true :=
    fun c member => List.mem_takeWhile_imp (List.mem_reverse.1 member)
  generalize (line.reverse.takeWhile Text.isBlank).reverse = gap at cut blank
  cases gap with
  | nil =>
    rw [cut] at ended
    exact absurd ended (by decide)
  | cons c more =>
    rw [cut]
    simp [startsSeparator, startsMarks, blank c List.mem_cons_self]

/-- A field ends its last line. -/
theorem WrittenField.getLast?_text (field : WrittenField) :
    field.text.getLast? = some '\n' := by
  have last : (ending field.isSpaced).getLast? = some '\n' := by cases field.isSpaced <;> rfl
  rw [text, List.getLast?_append, List.getLast?_cons, List.getLast?_append, last]
  rfl

/-- A header with fields ends its last line. -/
theorem getLast?_headerText {fields : List WrittenField} (some : fields ≠ []) :
    (headerText fields).getLast? = .some '\n' := by
  obtain ⟨front, field, rfl⟩ := List.eq_nil_or_concat fields |>.resolve_left some
  rw [headerText, List.concat_eq_append, List.flatMap_append, List.flatMap_singleton,
    List.getLast?_append, field.getLast?_text]
  rfl

/-- A text with a header of sound fields between two lines of hyphens is cut behind the second of
them. -/
theorem headerBlock?_headerText {fields : List WrittenField} (some : fields ≠ [])
    (sound : ∀ field ∈ fields, field.Sound) (body : List Char) :
    headerBlock? ("---\n".toList ++ (headerText fields ++ ("---\n".toList ++ body))) =
      .some (headerText fields, body) := by
  have ended := getLast?_headerText some
  refine headerBlock?_written ended (fun line member => ?_) body
  refine Bool.eq_false_iff.2 fun delimiter => ?_
  have starts := startsSeparator_of_isHeaderDelimiter (getLast?_of_mem_lines ended line member)
    delimiter
  have none : startsSeparator line = false := by
    cases cut : Text.lines (headerText fields) with
    | nil =>
      rw [cut] at member
      cases member
    | cons first others =>
      obtain ⟨head, tail⟩ := startsSeparator_of_mem_lines true (isUnseparated_headerText sound) cut
      rw [cut] at member
      rcases List.mem_cons.1 member with rfl | later
      · exact head rfl
      · exact tail line later
  rw [none] at starts
  cases starts

end Lines

end NoteTemplate
