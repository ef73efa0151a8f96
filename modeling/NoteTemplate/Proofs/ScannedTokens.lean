import NoteTemplate.Proofs.WrittenFields
import NoteTemplate.Yaml.Token

/-!
# The steps of a scanner

A scanner reads a text of YAML token by token. Every token takes at least one letter, so there are
always steps enough (`Scanner.Yields`), and what is read at a place depends on the letters there:
white space is skipped, a word becomes a plain scalar, and a text between double quotes becomes a
scalar across all of its lines.
-/

namespace NoteTemplate.Yaml

/-- What is no white space is not void. -/
theorem isVoid_of_black {c : Char} (black : Text.isBlank c = false) : isVoid c = false := by
  cases void : isVoid c with
  | false => rfl
  | true => exact absurd (isBlank_of_isVoid void) (by simp [black])

/-- A letter or a digit is neither void nor starts a comment. -/
theorem full_of_isAlphanum {c : Char} (letter : c.isAlphanum = true) :
    isVoid c = false ∧ c ≠ '#' := by
  refine ⟨isVoid_of_black (isBlank_of_isApart (isApart_of_isAlphanum letter)), ?_⟩
  rintro rfl
  exact absurd letter (by decide)

/-- The line goes on behind a character that is not void. -/
theorem place_of_full {c : Char} (full : isVoid c = false) (line column : Nat) (rest : List Char) :
    place line column (c :: rest) = ⟨c, line, column⟩ :: place line (column + 1) rest := by
  simp only [isVoid, Bool.or_eq_false_iff] at full
  rw [place_cons, full.2]
  rfl

/-- A text has as many places as characters. -/
theorem length_place (line column : Nat) (text : List Char) :
    (place line column text).length = text.length := by
  induction text generalizing line column with
  | nil => rfl
  | cons c rest ih => rw [place_cons, List.length_cons, ih, List.length_cons]

namespace Scanner

/-- A scanner reads tokens up to the end, whenever there is a step for every letter. -/
def Yields (scanner : Scanner) (tokens : List Token) : Prop :=
  ∀ steps, scanner.text.length ≤ steps → run steps scanner = some tokens

/-- A scanner yields what it does behind letters that it skips. -/
theorem Yields.of_skip {scanner : Scanner} (keyAllowed : Bool) {text : List Letter}
    (same : skip scanner.inFlow false scanner.keyAllowed scanner.text =
      skip scanner.inFlow false keyAllowed text) (shorter : text.length ≤ scanner.text.length)
    {tokens : List Token}
    (yields : { scanner with keyAllowed := keyAllowed, text := text }.Yields tokens) :
    scanner.Yields tokens := by
  intro steps enough
  have behind := yields steps (Nat.le_trans shorter enough)
  unfold run at behind ⊢
  rw [same]
  exact behind

/-- Nothing is skipped in front of a letter that is neither void nor starts a comment. -/
theorem skip_of_full {c : Char} (full : isVoid c = false) (noComment : c ≠ '#')
    (inFlow keyAllowed : Bool) (line column : Nat) (rest : List Letter) :
    skip inFlow false keyAllowed (⟨c, line, column⟩ :: rest) =
      (keyAllowed, ⟨c, line, column⟩ :: rest) := by
  simp only [isVoid, isGap, Bool.or_eq_false_iff, decide_eq_false_iff_not] at full
  obtain ⟨⟨noSpace, noTab⟩, noBreak⟩ := full
  simp [skip, noBreak, noSpace, noTab, noComment]

section Places

variable {scanner next : Scanner} {line column : Nat} {rest : List Char}
  {tokens : List Token}

/-- A space is skipped. -/
theorem Yields.of_space (here : scanner.text = place line column (' ' :: rest))
    (yields : { scanner with text := place line (column + 1) rest }.Yields tokens) :
    scanner.Yields tokens := by
  have space :
      place line column (' ' :: rest) = ⟨' ', line, column⟩ :: place line (column + 1) rest :=
    place_cons _ _ _ _
  refine Yields.of_skip scanner.keyAllowed ?_ ?_ yields
  · rw [here, space]
    simp [skip, isBreak]
  · rw [here, space]
    exact Nat.le_succ _

/-- A line feed is skipped in block style, and a key may start behind it. -/
theorem Yields.of_feed (here : scanner.text = place line column ('\n' :: rest))
    (block : scanner.inFlow = false)
    (yields : { scanner with keyAllowed := true, text := place (line + 1) 0 rest }.Yields tokens) :
    scanner.Yields tokens := by
  have feed : place line column ('\n' :: rest) = ⟨'\n', line, column⟩ :: place (line + 1) 0 rest :=
    place_cons _ _ _ _
  refine Yields.of_skip true ?_ ?_ yields
  · rw [here, feed, block]
    simp [skip, isBreak]
  · rw [here, feed]
    exact Nat.le_succ _

/-- What a step does at a letter that is neither void nor starts a comment. -/
theorem run_token (scanner : Scanner) {c : Char} {letters : List Letter}
    (here : scanner.text = ⟨c, line, column⟩ :: letters) (full : isVoid c = false)
    (noComment : c ≠ '#') (steps : Nat) :
    run (steps + 1) scanner = (scanner.forgetStale? ⟨c, line, column⟩).bind fun fresh =>
      ((fresh.unroll column).readToken? ⟨c, line, column⟩ letters).bind (run steps) := by
  obtain ⟨text, indent, outer, keyAllowed, keys, before, count⟩ := scanner
  dsimp only at here
  subst here
  rw [run.eq_def]
  simp only [skip_of_full full noComment]
  rfl

/-- A token is read at a character that is neither void nor starts a comment. -/
theorem Yields.of_token (fresh : Scanner) {c : Char}
    (here : scanner.text = place line column (c :: rest)) (full : isVoid c = false)
    (noComment : c ≠ '#')
    (kept : scanner.forgetStale? ⟨c, line, column⟩ = some fresh)
    (read : (fresh.unroll column).readToken? ⟨c, line, column⟩ (place line (column + 1) rest) =
      some next)
    (shorter : next.text.length ≤ rest.length) (yields : next.Yields tokens) :
    scanner.Yields tokens := by
  have cut : scanner.text = ⟨c, line, column⟩ :: place line (column + 1) rest := by
    rw [here, place_of_full full]
  intro steps enough
  rw [cut, List.length_cons, length_place] at enough
  obtain ⟨steps, rfl⟩ : ∃ fewer, steps = fewer + 1 := Nat.exists_eq_add_one.2 (by omega)
  rw [run_token _ cut full noComment, kept, Option.bind_some, read, Option.bind_some]
  exact yields steps (by omega)

end Places

end Scanner

/-- A word in front of a text is read as a part of a plain scalar. -/
theorem readPlain_word {word : List Char} (letters : ∀ c ∈ word, isWordLetter c = true)
    (last : word.getLast? ≠ some ':') (more : List Char) (indent : Int) (reversed : List Char)
    (line column : Nat) :
    readPlain false indent reversed .empty (place line column (word ++ more)) =
      readPlain false indent (word.reverse ++ reversed) .empty
        (place line (column + word.length) more) := by
  induction word generalizing reversed column with
  | nil => rfl
  | cons c rest ih =>
    have black : ∀ d ∈ c :: rest, isVoid d = false := fun d member =>
      isVoid_of_black (isBlank_of_isWordLetter (letters d member))
    have full := black c List.mem_cons_self
    simp only [isVoid, Bool.or_eq_false_iff] at full
    have goesOn : ¬ (c = ':' ∧ startsVoid (place line (column + 1) (rest ++ more)) = true) := by
      rintro ⟨rfl, void⟩
      cases rest with
      | nil => exact last rfl
      | cons d others =>
        rw [List.cons_append, place_cons] at void
        have full := black d (List.mem_cons_of_mem _ List.mem_cons_self)
        simp [startsVoid, full] at void
    have last' : rest.getLast? ≠ some ':' := by
      cases rest with
      | nil => exact nofun
      | cons d others => rwa [List.getLast?_cons_cons] at last
    have others := fun d member => letters d (List.mem_cons_of_mem _ member)
    have step := ih others last' (c :: reversed)
      (column + 1)
    have behind : column + 1 + rest.length = column + (c :: rest).length := by
      simp only [List.length_cons]
      omega
    have written : rest.reverse ++ c :: reversed = (c :: rest).reverse ++ reversed := by simp
    rw [behind, written] at step
    rw [List.cons_append, place_cons, full.2, ← step, readPlain]
    simp [full.1, full.2, Gap.empty, Gap.isEmpty, goesOn, addBehind, Gap.text]

/-- A plain scalar ends at a colon with void behind it. -/
theorem readPlain_colon (indent : Int) (reversed more : List Char) (line column : Nat)
    (void : startsVoid (place line (column + 1) more) = true) :
    readPlain false indent reversed .empty (place line column (':' :: more)) =
      some (reversed.reverse, false, place line column (':' :: more)) := by
  have noBreak : isBreak ':' = false := by decide
  have noGap : isGap ':' = false := by decide
  rw [place_cons, noBreak]
  simp [readPlain, noGap, noBreak, void, Gap.empty, Gap.isEmpty, Gap.hasBreak]

namespace Scanner

/-- No line between documents starts behind the start of a line. -/
theorem startsMark_of_column {mark : Char} {letter : Letter} {rest : List Letter}
    (inner : letter.column ≠ 0) : startsMark mark (letter :: rest) = false := by
  match rest with
  | [] => rfl
  | [_] => rfl
  | _ :: _ :: _ => simp [startsMark, inner]

/-- No line between documents starts at a place behind the start of a line. -/
theorem startsMark_place_inner {text : List Letter} {line column : Nat} {rest : List Char}
    (here : text = place line (column + 1) rest) (mark : Char) : startsMark mark text = false := by
  refine Bool.eq_false_iff.2 fun starts => ?_
  rw [here] at starts
  exact absurd (startsMark_place starts).1 (Nat.succ_ne_zero column)

/-- No line between documents starts with anything but a mark. -/
theorem startsMark_of_ne {mark : Char} {letter : Letter} {rest : List Letter}
    (other : letter.char ≠ mark) : startsMark mark (letter :: rest) = false := by
  match rest with
  | [] => rfl
  | [_] => rfl
  | _ :: _ :: _ => simp [startsMark, other]

/-- Whether a word can start with a letter in front of others: a letter or a digit starts one, and
a hyphen within a line in front of something. -/
def StartsWord (letter : Letter) (rest : List Letter) : Prop :=
  letter.char.isAlphanum = true ∨
    letter.char = '-' ∧ startsVoid rest = false ∧ letter.column ≠ 0

/-- A word is read as a plain scalar. -/
theorem readToken?_word {scanner : Scanner} {letter : Letter} {rest : List Letter}
    (block : scanner.inFlow = false) (here : scanner.text = letter :: rest)
    (start : StartsWord letter rest) :
    scanner.readToken? letter rest = scanner.readPlainScalar? letter := by
  rcases start with letter? | ⟨hyphen, full, inner⟩
  · have other : ∀ sign : Char, sign.isAlphanum = false → letter.char ≠ sign := by
      intro sign no same
      rw [← same, letter?] at no
      cases no
    have noMark : ∀ mark : Char, mark.isAlphanum = false →
        startsMark mark scanner.text = false := by
      intro mark no
      rw [here]
      exact startsMark_of_ne (other mark no)
    have full := (full_of_isAlphanum letter?).1
    unfold readToken? startsPlain
    simp [other, noMark, block, full]
  · have noMark : ∀ mark, startsMark mark scanner.text = false := by
      intro mark
      rw [here]
      exact startsMark_of_column inner
    have noGap : (rest.head?.any fun next => isGap next.char) = false := by
      cases rest with
      | nil => rfl
      | cons next more =>
        simp only [startsVoid, isVoid, Bool.or_eq_false_iff] at full
        exact full.1
    unfold readToken? startsPlain
    simp [hyphen, noMark, full, noGap]

/-- A word starts where it is written, behind the start of a line or with a letter or a digit. -/
theorem startsWord_place {word : List Char} (isWord : isWord word = true) (more : List Char)
    (line column : Nat) (start : word.head?.all Char.isAlphanum = true ∨ column ≠ 0) :
    ∃ c others, word = c :: others ∧ isVoid c = false ∧ c ≠ '#' ∧
      place line column (word ++ more) =
        ⟨c, line, column⟩ :: place line (column + 1) (others ++ more) ∧
      StartsWord ⟨c, line, column⟩ (place line (column + 1) (others ++ more)) := by
  have letters := isWordLetter_of_isWord isWord
  cases word with
  | nil => cases isWord
  | cons c others =>
    have wordLetter := letters c List.mem_cons_self
    have black := isBlank_of_isWordLetter wordLetter
    have noComment : c ≠ '#' := by
      rintro rfl
      exact absurd wordLetter (by decide)
    refine ⟨c, others, rfl, isVoid_of_black black, noComment,
      place_of_full (isVoid_of_black black) _ _ _, ?_⟩
    simp only [NoteTemplate.isWord, Bool.and_eq_true, Bool.or_eq_true, decide_eq_true_eq,
      Bool.not_eq_true'] at isWord
    rcases isWord.1.1 with letter | ⟨hyphen, some⟩
    · exact .inl letter
    · rcases start with letter | inner
      · exact .inl letter
      · refine .inr ⟨hyphen, ?_, inner⟩
        cases others with
        | nil => cases some
        | cons d rest =>
          have next := letters d (List.mem_cons_of_mem _ List.mem_cons_self)
          rw [List.cons_append, place_cons]
          exact isVoid_of_black (isBlank_of_isWordLetter next)

/-- A place where a key may have started lies in no later line, and need not be a key. -/
def IsSettled (key : Option PendingKey) (line : Nat) : Prop :=
  ∀ pending ∈ key, pending.required = false ∧ pending.line ≤ line

/-- Where no key may have started, nothing has to be settled. -/
theorem isSettled_none (line : Nat) : IsSettled none line := nofun

/-- What a scanner remembers of a place for a key in an earlier line is forgotten. -/
theorem forgetStale?_of_isSettled (scanner : Scanner) {key : Option PendingKey} {line : Nat}
    (keys : scanner.keys = [key]) (settled : IsSettled key line) (c : Char) (column : Nat) :
    scanner.forgetStale? ⟨c, line + 1, column⟩ = some { scanner with keys := [none] } := by
  cases key with
  | none => simp [forgetStale?, keys]
  | some pending =>
    obtain ⟨optional, earlier⟩ := settled pending rfl
    have stale : PendingKey.isStale pending ⟨c, line + 1, column⟩ = true := by
      simp [PendingKey.isStale, Nat.lt_succ_of_le earlier]
    simp [forgetStale?, keys, stale, optional]

/-- A text between double quotes is read as a scalar, wherever it stands within a line. -/
theorem readToken?_quoted (scanner : Scanner) {fresh : Scanner} {line column : Nat}
    {text more : List Char}
    (quotable : isQuotable text = true)
    (here : scanner.text = place line (column + 1) ('"' :: (text ++ '"' :: more)))
    (remembered : scanner.rememberKey? ⟨'"', line, column + 1⟩ = some fresh)
    (kept : fresh.text = scanner.text) :
    ∃ line' ≥ line, ∃ column',
      scanner.readToken? ⟨'"', line, column + 1⟩ (place line (column + 2) (text ++ '"' :: more)) =
        some { fresh.emitThen (.scalar (String.ofList (folded text)) false)
          (place line' (column' + 1) more) with keyAllowed := false } := by
  obtain ⟨plain, unseparated⟩ := Bool.and_eq_true_iff.1 quotable
  have characters : ∀ c ∈ text, c ≠ '"' ∧ c ≠ '\\' := by
    intro c member
    have known := List.all_eq_true.1 plain c member
    simp only [isQuotableCharacter, Bool.and_eq_true, decide_eq_true_eq] at known
    exact ⟨known.1.2, known.2⟩
  have inner : isUnseparated (column + 2 = 0) text = true := by simpa using unseparated
  obtain ⟨line', later, column', read⟩ := readDouble_quoted characters more [] .empty line
    (column + 2) inner
  refine ⟨line', later, column', ?_⟩
  rw [place_of_full (by decide)] at here
  have noMark : ∀ mark, startsMark mark scanner.text = false := by
    intro mark
    rw [here]
    exact startsMark_of_column (Nat.succ_ne_zero column)
  rw [here] at noMark
  unfold readToken?
  simp [noMark, readContent?, remembered, kept, here, read, folded]

/-- A hyphen within a line with void behind it starts an item. -/
theorem readToken?_hyphen {scanner : Scanner} {line column : Nat} {rest : List Char}
    (here : scanner.text = place line (column + 1) ('-' :: rest))
    (void : startsVoid (place line (column + 2) rest) = true) :
    scanner.readToken? ⟨'-', line, column + 1⟩ (place line (column + 2) rest) =
      scanner.readEntry? ⟨'-', line, column + 1⟩ := by
  unfold readToken?
  simp [startsMark_place_inner here, void]

end Scanner

end NoteTemplate.Yaml
