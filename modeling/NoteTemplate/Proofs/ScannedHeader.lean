import Mathlib.Data.Option.Basic
import NoteTemplate.Proofs.ScannedTokens

/-!
# The tokens of a written header

A scanner reads a header of sound fields field by field. At the start of every line that a field
starts in, the scanner is back in one state (`Scanner.atField`); the keys, the values and the items
of lists in between are read one by one, and the mapping of the header is opened in front of the
first key and closed behind the last value (`tokens?_headerText`).
-/

namespace NoteTemplate.Yaml

/-- A text is empty or starts with a letter or a digit. -/
def StartsField (text : List Char) : Prop := ∀ c ∈ text.head?, c.isAlphanum = true

/-- A plain scalar in a mapping ends at the end of its line. -/
theorem readPlain_ending (isSpaced : Bool) (reversed : List Char) {rest : List Char}
    (starts : StartsField rest) (line column : Nat) :
    ∃ line' > line, readPlain false 0 reversed .empty
        (place line column (WrittenField.ending isSpaced ++ rest)) =
      some (reversed.reverse, true, place line' 0 rest) := by
  have noGap : isGap '\n' = false := by decide
  have isEnd : isBreak '\n' = true := by decide
  have below : ∀ line breaks, readPlain false 0 reversed (.breaks breaks) (place line 0 rest) =
      some (reversed.reverse, true, place line 0 rest) := by
    intro line breaks
    cases rest with
    | nil => rfl
    | cons c rest =>
      have full := (full_of_isAlphanum (starts c rfl)).1
      simp only [isVoid, Bool.or_eq_false_iff] at full
      rw [place_cons, readPlain]
      simp [full.1, full.2, Gap.isEmpty, Gap.hasBreak]
  cases isSpaced with
  | true =>
    refine ⟨line + 1 + 1, by omega, ?_⟩
    rw [WrittenField.ending, List.cons_append, place_cons, readPlain]
    simp only [noGap, isEnd, if_true, Bool.false_eq_true, if_false]
    rw [List.cons_append, List.nil_append, place_cons, readPlain]
    simp only [noGap, isEnd, if_true, Bool.false_eq_true, if_false]
    exact below _ _
  | false =>
    refine ⟨line + 1, by omega, ?_⟩
    rw [WrittenField.ending, List.cons_append, List.nil_append, place_cons, readPlain]
    simp only [noGap, isEnd, if_true, Bool.false_eq_true, if_false]
    exact below _ _

namespace Scanner

/-- A scanner at the start of a line in front of a field, outside of all collections if no field
stands before it. -/
def atField (isFirst : Bool) (line : Nat) (text : List Char) (tokens : List Token) (count : Nat) :
    Scanner where
  text := place line 0 text
  indent := if isFirst then -1 else 0
  outer := if isFirst then [] else [-1]
  tokens := tokens
  count := count

/-- A scanner behind the colon of a field. -/
def atValue (line column : Nat) (text : List Char) (tokens : List Token) (count : Nat) :
    Scanner where
  text := place line column text
  indent := 0
  outer := [-1]
  keyAllowed := false
  tokens := tokens
  count := count

/-- The tokens before a field, with the mapping that the first field opens. -/
def opened (isFirst : Bool) (tokens : List Token) : List Token :=
  if isFirst then .blockMapping :: tokens else tokens

/-- A scanner behind a key, which remembers where it started. -/
def atColon (isFirst : Bool) (line column : Nat) (more : List Char) (key : String)
    (before : List Token) (count : Nat) : Scanner :=
  { atField isFirst line [] (.scalar key true :: before) (count + 1) with
    text := place line column (':' :: more)
    keyAllowed := false
    keys := [some ⟨count, line, 0, !isFirst⟩] }

/-- A key is read up to its colon. -/
theorem yields_of_atColon {isFirst : Bool} {key : List Char} (word : isWord key = true)
    (start : key.head?.all Char.isAlphanum = true) {line : Nat} {more : List Char}
    (void : startsVoid (place line (key.length + 1) more) = true) {before tokens : List Token}
    {count : Nat} (yields : (atColon isFirst line key.length more (String.ofList key) before
      count).Yields tokens) :
    (atField isFirst line (key ++ ':' :: more) before count).Yields tokens := by
  obtain ⟨c, others, same, full, noComment, here, starts⟩ :=
    startsWord_place word (':' :: more) line 0 (.inl start)
  have plain := readPlain_word (isWordLetter_of_isWord word) (getLast?_of_isWord word)
    (':' :: more) (if isFirst then -1 else 0) [] line 0
  rw [Nat.zero_add, readPlain_colon _ _ _ _ _ void] at plain
  have read : (atField isFirst line (key ++ ':' :: more) before count).readToken? ⟨c, line, 0⟩
      (place line 1 (others ++ ':' :: more)) =
        some (atColon isFirst line key.length more (String.ofList key) before count) := by
    rw [readToken?_word rfl here starts]
    cases isFirst <;>
      simp_all [readPlainScalar?, rememberKey?, forgetKey?, atField, atColon, inFlow, emitThen,
        emit]
  refine Yields.of_token (atField isFirst line (key ++ ':' :: more) before count)
    (congrArg (place line 0) (by rw [same, List.cons_append])) full noComment rfl ?_ ?_ yields
  · cases isFirst <;> exact read
  · show (place line key.length (':' :: more)).length ≤ _
    rw [length_place]
    simp

/-- The colon behind a key makes it one, and opens the mapping in front of the first key. -/
theorem readValue?_atColon (isFirst : Bool) (line column : Nat) (more : List Char) (key : String)
    (before : List Token) (count : Nat) :
    ∃ count', (atColon isFirst line column more key before count).readValue? ⟨':', line, column⟩ =
      some (atValue line (column + 1) more
        (.value :: .scalar key true :: .key :: opened isFirst before) count') := by
  -- The mapping is inserted behind the key, so two tokens stand behind its place by then.
  have two : count + 1 + 1 - count = 2 := by omega
  have noBreak : isBreak ':' = false := by decide
  cases isFirst with
  | true =>
    refine ⟨count + 4, ?_⟩
    simp [atColon, atField, readValue?, insertAt, roll, inFlow, indicator, emitThen, emit, atValue,
      opened, place_cons, noBreak, two]
  | false =>
    refine ⟨count + 3, ?_⟩
    simp [atColon, atField, readValue?, insertAt, roll, inFlow, indicator, emitThen, emit, atValue,
      opened, place_cons, noBreak]

/-- A key is read with its colon. -/
theorem yields_of_atValue {isFirst : Bool} {key : List Char} (word : isWord key = true)
    (start : key.head?.all Char.isAlphanum = true) (short : key.length ≤ keyLimit) {line : Nat}
    {more : List Char} (void : startsVoid (place line (key.length + 1) more) = true)
    {before tokens : List Token} {count : Nat}
    (yields : ∀ count, (atValue line (key.length + 1) more
      (.value :: .scalar (String.ofList key) true :: .key :: opened isFirst before) count).Yields
        tokens) :
    (atField isFirst line (key ++ ':' :: more) before count).Yields tokens := by
  apply yields_of_atColon word start void
  generalize String.ofList key = name at yields ⊢
  obtain ⟨count', read⟩ := readValue?_atColon isFirst line key.length more name before count
  have near : PendingKey.isStale ⟨count, line, 0, !isFirst⟩ ⟨':', line, key.length⟩ = false := by
    simp [PendingKey.isStale, short]
  have whole : (atColon isFirst line key.length more name before count).unroll key.length =
      atColon isFirst line key.length more name before count := by
    cases isFirst with
    | true => rfl
    | false =>
      have inside : ¬ (key.length : Int) < 0 := by omega
      simp [unroll, atColon, atField, inFlow, closedBy, inside]
  refine Yields.of_token (atColon isFirst line key.length more name before count)
    rfl (by decide) (by decide) ?_ ?_ ?_ (yields count')
  · simp [forgetStale?, atColon, near]
  · have noMark : ∀ mark, ':' ≠ mark →
        startsMark mark (atColon isFirst line key.length more name before count).text = false := by
      intro mark other
      show startsMark mark (place line key.length (':' :: more)) = false
      rw [place_cons]
      exact startsMark_of_ne other
    rw [whole, ← read]
    unfold readToken?
    simp [noMark, void]
  · show (place line (key.length + 1) more).length ≤ _
    rw [length_place]

/-- At the start of a line in front of a field or of the end, the collections that are deeper than
the mapping of the header are closed, and nothing else counts. -/
theorem yields_of_atField {scanner : Scanner} {line depth : Nat} {rest : List Char}
    (here : scanner.text = place (line + 1) 0 rest) (starts : StartsField rest)
    (allowed : scanner.keyAllowed = true) {key : Option PendingKey} (keys : scanner.keys = [key])
    (settled : IsSettled key line)
    (closes : closedBy 0 scanner.indent scanner.outer = (depth, 0, [-1]))
    (ends : closedBy (-1) scanner.indent scanner.outer = (depth + 1, -1, []))
    {tokens : List Token}
    (yields : ∀ count, (atField false (line + 1) rest
      (List.replicate depth .blockEnd ++ scanner.tokens) count).Yields tokens) :
    scanner.Yields tokens := by
  obtain ⟨text, indent, outer, keyAllowed, levels, before, count⟩ := scanner
  dsimp only at here allowed keys closes ends yields
  subst here allowed keys
  intro steps enough
  rw [length_place] at enough
  rw [← yields (count + depth) steps (by simpa [atField, length_place] using enough)]
  cases rest with
  | nil =>
    have finished : finish? ⟨[], indent, outer, true, [key], before, count⟩ =
        some (List.replicate (depth + 1) Token.blockEnd ++ before).reverse := by
      cases key with
      | none => simp [finish?, forgetKey?, unroll, inFlow, ends]
      | some pending =>
        simp [finish?, forgetKey?, (settled pending rfl).1, unroll, inFlow, ends]
    unfold run
    simp only [place_nil, skip, finished]
    simp [atField, skip, place_nil, finish?, forgetKey?, unroll, inFlow, closedBy,
      List.replicate_succ]
  | cons c more =>
    obtain ⟨full, noComment⟩ := full_of_isAlphanum (starts c rfl)
    obtain ⟨steps, rfl⟩ : ∃ fewer, steps = fewer + 1 :=
      Nat.exists_eq_add_one.2 (by simp only [List.length_cons] at enough; omega)
    have cut : place (line + 1) 0 (c :: more) = ⟨c, line + 1, 0⟩ :: place (line + 1) 1 more :=
      place_of_full full _ _ _
    have kept := forgetStale?_of_isSettled
      ⟨place (line + 1) 0 (c :: more), indent, outer, true, [key], before, count⟩
      rfl settled c 0
    have closed : unroll ⟨place (line + 1) 0 (c :: more), indent, outer, true, [none], before,
        count⟩ 0 = atField false (line + 1) (c :: more)
          (List.replicate depth .blockEnd ++ before) (count + depth) := by
      simp [unroll, inFlow, closes, atField]
    rw [run_token _ cut full noComment, kept, Option.bind_some, Int.natCast_zero, closed,
      run_token (atField false (line + 1) (c :: more) _ _) cut full noComment]
    rfl

/-- What stands between the end of a value and the next field is skipped. -/
theorem yields_of_ending {scanner : Scanner} {isSpaced : Bool} {line column depth : Nat}
    {rest : List Char}
    (here : scanner.text = place line column (WrittenField.ending isSpaced ++ rest))
    (starts : StartsField rest) {key : Option PendingKey} (keys : scanner.keys = [key])
    (settled : IsSettled key line)
    (closes : closedBy 0 scanner.indent scanner.outer = (depth, 0, [-1]))
    (ends : closedBy (-1) scanner.indent scanner.outer = (depth + 1, -1, []))
    {tokens : List Token}
    (yields : ∀ line count, (atField false line rest
      (List.replicate depth .blockEnd ++ scanner.tokens) count).Yields tokens) :
    scanner.Yields tokens := by
  have block : scanner.inFlow = false := by simp [inFlow, keys]
  have later : IsSettled key (line + 1) := fun pending member =>
    ⟨(settled pending member).1, Nat.le_succ_of_le (settled pending member).2⟩
  cases isSpaced with
  | true =>
    refine Yields.of_feed here block (Yields.of_feed rfl block ?_)
    refine yields_of_atField rfl starts rfl ?_ later ?_ ?_ (yields _)
    exacts [keys, closes, ends]
  | false =>
    refine Yields.of_feed here block ?_
    refine yields_of_atField rfl starts rfl ?_ settled ?_ ?_ (yields _)
    exacts [keys, closes, ends]

/-- What stands between a value within one line and the next field is skipped. -/
theorem yields_ending {isSpaced : Bool} {line column : Nat} {rest : List Char}
    (starts : StartsField rest) {before tokens : List Token} {count : Nat}
    (yields : ∀ line count, (atField false line rest before count).Yields tokens) :
    (atValue line column (WrittenField.ending isSpaced ++ rest) before count).Yields tokens := by
  have closes : closedBy 0 0 [-1] = (0, 0, [-1]) := rfl
  have ends : closedBy (-1) 0 [-1] = (0 + 1, -1, []) := rfl
  refine yields_of_ending rfl starts rfl (isSettled_none line) closes ends ?_
  exact yields

/-- The space in front of a value is skipped. -/
theorem yields_space {line column : Nat} {text : List Char} {before tokens : List Token}
    {count : Nat} (yields : (atValue line (column + 1) text before count).Yields tokens) :
    (atValue line column (' ' :: text) before count).Yields tokens :=
  Yields.of_space rfl yields

/-- Nothing is closed within the mapping of a header. -/
theorem unroll_atValue (line inner column : Nat) (text : List Char) (before : List Token)
    (count : Nat) :
    (atValue line inner text before count).unroll column =
      atValue line inner text before count := by
  have inside : ¬ (column : Int) < 0 := by omega
  simp [unroll, atValue, inFlow, closedBy, inside]

/-- A word is read as the value of a field. -/
theorem yields_word {word : List Char} (isWord : isWord word = true) {isSpaced : Bool}
    {rest : List Char} (follows : StartsField rest) {line column : Nat}
    {before tokens : List Token} {count : Nat}
    (yields : ∀ line count,
      (atField false line rest (.scalar (String.ofList word) true :: before) count).Yields tokens) :
    (atValue line column (' ' :: (word ++ (WrittenField.ending isSpaced ++ rest))) before
      count).Yields tokens := by
  apply yields_space
  generalize behind : WrittenField.ending isSpaced ++ rest = more
  obtain ⟨c, others, same, full, noComment, here, starts⟩ :=
    startsWord_place isWord more line (column + 1) (.inr (Nat.succ_ne_zero column))
  obtain ⟨line', -, ended⟩ := readPlain_ending isSpaced (word.reverse ++ []) follows line
    (column + 1 + word.length)
  have plain := readPlain_word (isWordLetter_of_isWord isWord) (getLast?_of_isWord isWord)
    more 0 [] line (column + 1)
  rw [← behind, ended, behind] at plain
  have last := yields line' (count + 1)
  refine Yields.of_token (atValue line (column + 1) (word ++ more) before count)
    (congrArg (place line (column + 1)) (by rw [same, List.cons_append])) full noComment rfl ?_ ?_
    last
  · rw [unroll_atValue, readToken?_word rfl here starts]
    simp [readPlainScalar?, rememberKey?, atValue, atField, inFlow, emitThen, emit, plain]
  · show (place line' 0 rest).length ≤ _
    rw [length_place, ← behind]
    simp only [List.length_append]
    omega

/-- A text between double quotes is read as the value of a field. -/
theorem yields_quoted {text : List Char} (quotable : isQuotable text = true) {isSpaced : Bool}
    {rest : List Char} (starts : StartsField rest) {line column : Nat}
    {before tokens : List Token} {count : Nat}
    (yields : ∀ line count, (atField false line rest
      (.scalar (String.ofList (folded text)) false :: before) count).Yields tokens) :
    (atValue line column (' ' :: '"' :: (text ++ '"' :: (WrittenField.ending isSpaced ++ rest)))
      before count).Yields tokens := by
  apply yields_space
  generalize behind : WrittenField.ending isSpaced ++ rest = more
  obtain ⟨line', -, column', read⟩ := readToken?_quoted
    (atValue line (column + 1) ('"' :: (text ++ '"' :: more)) before count) quotable rfl rfl rfl
  have last : (atValue line' (column' + 1) more
      (.scalar (String.ofList (folded text)) false :: before) (count + 1)).Yields tokens := by
    rw [← behind]
    exact yields_ending starts yields
  refine Yields.of_token
    (atValue line (column + 1) ('"' :: (text ++ '"' :: more)) before count)
    rfl (by decide) (by decide) rfl ?_ ?_ last
  · rw [unroll_atValue]
    exact read
  · show (place line' (column' + 1) more).length ≤ _
    rw [length_place, List.length_append, List.length_cons]
    omega

/-- A scanner behind an opening bracket, where a key may start in flow style. -/
def inBrackets (line column : Nat) (text : List Char) (before : List Token) (count : Nat) :
    Scanner :=
  { atValue line column text (.flowSequence :: before) (count + 1) with
    keyAllowed := true, keys := [none, none] }

/-- Brackets without items are read as the value of a field. -/
theorem yields_noItems {isSpaced : Bool} {rest : List Char} (starts : StartsField rest)
    {line column : Nat} {before tokens : List Token} {count : Nat}
    (yields : ∀ line count, (atField false line rest
      (.flowSequenceEnd :: .flowSequence :: before) count).Yields tokens) :
    (atValue line column (' ' :: '[' :: ']' :: (WrittenField.ending isSpaced ++ rest))
      before count).Yields tokens := by
  apply yields_space
  generalize behind : WrittenField.ending isSpaced ++ rest = more
  have noMark : ∀ mark column c more,
      startsMark mark (place line (column + 1) (c :: more)) = false :=
    fun mark column c more => by
      rw [place_cons]
      exact startsMark_of_column (Nat.succ_ne_zero _)
  have last : (atValue line (column + 3) more (.flowSequenceEnd :: .flowSequence :: before)
      (count + 2)).Yields tokens := by
    rw [← behind]
    exact yields_ending starts yields
  have closes : (inBrackets line (column + 2) (']' :: more) before count).Yields tokens := by
    refine Yields.of_token (inBrackets line (column + 2) (']' :: more) before count)
      rfl (by decide) (by decide) rfl ?_ ?_ last
    · show (inBrackets line (column + 2) (']' :: more) before count).readToken? _ _ = _
      unfold readToken?
      simp only [show (inBrackets line (column + 2) (']' :: more) before count).text =
        place line (column + 2) (']' :: more) from rfl, noMark]
      rfl
    · show (place line (column + 3) more).length ≤ _
      rw [length_place]
  refine Yields.of_token (atValue line (column + 1) ('[' :: ']' :: more) before count)
    rfl (by decide) (by decide) rfl ?_ ?_ closes
  · rw [unroll_atValue]
    unfold readToken?
    simp only [show (atValue line (column + 1) ('[' :: ']' :: more) before count).text =
      place line (column + 1) ('[' :: ']' :: more) from rfl, noMark]
    rfl
  · show (place line (column + 2) (']' :: more)).length ≤ _
    rw [length_place]

/-- A scanner behind an item of a list. -/
def atItem (isOpen : Bool) (line column : Nat) (text : List Char) (key : Option PendingKey)
    (before : List Token) (count : Nat) : Scanner where
  text := place line column text
  indent := if isOpen then 2 else 0
  outer := if isOpen then [0, -1] else [-1]
  keyAllowed := false
  keys := [key]
  tokens := before
  count := count

/-- The tokens before an item, with the list that the first item opens. -/
def listed (isOpen : Bool) (before : List Token) : List Token :=
  if isOpen then before else .blockSequence :: before

/-- A scanner behind the hyphen of an item. -/
def atHyphen (line column : Nat) (text : List Char) (before : List Token) (count : Nat) :
    Scanner where
  text := place line column text
  indent := 2
  outer := [0, -1]
  tokens := .blockEntry :: before
  count := count

/-- The hyphen of an item is read. -/
theorem yields_of_atHyphen {isOpen : Bool} {line column : Nat} {text : List Char}
    {key : Option PendingKey} (settled : IsSettled key line) {before tokens : List Token}
    {count : Nat}
    (yields : ∀ count, (atHyphen (line + 1) 3 (' ' :: text) (listed isOpen before) count).Yields
      tokens) :
    (atItem isOpen line column ('\n' :: ' ' :: ' ' :: '-' :: ' ' :: text) key before count).Yields
      tokens := by
  refine Yields.of_feed rfl rfl (Yields.of_space rfl (Yields.of_space rfl ?_))
  have kept := forgetStale?_of_isSettled
    ({ atItem isOpen (line + 1) 2 ('-' :: ' ' :: text) key before count with
      keyAllowed := true } : Scanner) rfl settled '-' 2
  have void : startsVoid (place (line + 1) 3 (' ' :: text)) = true := by
    rw [place_cons]
    rfl
  have read : ∃ count', ({ atItem isOpen (line + 1) 2 ('-' :: ' ' :: text) none before count with
      keyAllowed := true }.unroll 2).readToken? ⟨'-', line + 1, 2⟩
        (place (line + 1) 3 (' ' :: text)) =
          some (atHyphen (line + 1) 3 (' ' :: text) (listed isOpen before) count') := by
    cases isOpen with
    | true => exact ⟨count + 1, readToken?_hyphen rfl void⟩
    | false =>
      refine ⟨count + 2, (readToken?_hyphen rfl void).trans ?_⟩
      simp [guard, readEntry?, unroll, closedBy, atItem, inFlow, roll, insertAt, forgetKey?,
        indicator, emitThen, emit, atHyphen, listed, place_cons, isBreak]
  obtain ⟨count', read⟩ := read
  refine Yields.of_token _ rfl (by decide) (by decide) kept read ?_ (yields count')
  show (place (line + 1) 3 (' ' :: text)).length ≤ _
  rw [length_place]

/-- An item is read. -/
theorem yields_of_atItem {isOpen : Bool} {line column : Nat} {text more : List Char}
    (quotable : isQuotable text = true) {key : Option PendingKey} (settled : IsSettled key line)
    {before tokens : List Token} {count : Nat}
    (yields : ∀ line column key count, IsSettled key line → (atItem true line column more key
      (.scalar (String.ofList (folded text)) false :: .blockEntry :: listed isOpen before)
        count).Yields tokens) :
    (atItem isOpen line column ('\n' :: (WrittenValue.itemStart ++ (text ++ '"' :: more))) key
      before count).Yields tokens := by
  refine yields_of_atHyphen settled fun count => Yields.of_space rfl ?_
  generalize listed isOpen before = before at yields ⊢
  obtain ⟨line', later, column', read⟩ := readToken?_quoted
    (atHyphen (line + 1) 4 ('"' :: (text ++ '"' :: more)) before count) quotable rfl rfl rfl
  have last := yields line' (column' + 1) (some ⟨count, line + 1, 4, false⟩) (count + 1) (by
    rintro _ ⟨⟩
    exact ⟨rfl, later⟩)
  refine Yields.of_token _ rfl (by decide) (by decide) rfl read ?_ last
  show (place line' (column' + 1) more).length ≤ (text ++ '"' :: more).length
  rw [length_place, List.length_append, List.length_cons]
  omega

/-- The tokens of items. -/
def itemTokens (texts : List (List Char)) : List Token :=
  texts.flatMap fun text => [.blockEntry, .scalar (String.ofList (folded text)) false]

/-- Items are read. -/
theorem yields_items {texts : List (List Char)} (quotable : ∀ text ∈ texts, isQuotable text = true)
    {isSpaced : Bool} {rest : List Char} (starts : StartsField rest) {line column : Nat}
    {key : Option PendingKey} (settled : IsSettled key line) {before tokens : List Token}
    {count : Nat}
    (yields : ∀ line count, (atField false line rest
      (.blockEnd :: ((itemTokens texts).reverse ++ before)) count).Yields tokens) :
    (atItem true line column ((WrittenValue.items texts).text ++
      (WrittenField.ending isSpaced ++ rest)) key before count).Yields tokens := by
  induction texts generalizing line column key before count with
  | nil =>
    have closes : closedBy 0 2 [0, -1] = (1, 0, [-1]) := rfl
    have ends : closedBy (-1) 2 [0, -1] = (1 + 1, -1, []) := rfl
    refine yields_of_ending rfl starts rfl settled closes ends ?_
    exact yields
  | cons text texts ih =>
    rw [WrittenValue.text_items_cons]
    refine yields_of_atItem (quotable text List.mem_cons_self) settled
      fun line column key count later => ?_
    refine ih (fun one member => quotable one (List.mem_cons_of_mem _ member)) later
      fun line count => ?_
    have next := yields line count
    simpa [itemTokens, listed] using next

/-- The tokens of a value. -/
def valueTokens : WrittenValue → List Token
  | .word text => [.scalar (String.ofList text) true]
  | .quoted text => [.scalar (String.ofList (folded text)) false]
  | .noItems => [.flowSequence, .flowSequenceEnd]
  | .items texts => .blockSequence :: (itemTokens texts ++ [.blockEnd])

/-- A value is read. -/
theorem yields_value {value : WrittenValue} (sound : value.Sound) {isSpaced : Bool}
    {rest : List Char} (starts : StartsField rest) {line column : Nat}
    {before tokens : List Token} {count : Nat}
    (yields : ∀ line count,
      (atField false line rest ((valueTokens value).reverse ++ before) count).Yields tokens) :
    (atValue line column (value.text ++ (WrittenField.ending isSpaced ++ rest)) before
      count).Yields tokens := by
  cases value with
  | word text => exact yields_word sound starts yields
  | quoted text =>
    rw [WrittenValue.text, List.cons_append, List.cons_append, List.append_assoc]
    exact yields_quoted sound starts yields
  | noItems => exact yields_noItems starts yields
  | items texts =>
    obtain ⟨some, quotable⟩ := sound
    cases texts with
    | nil => exact absurd rfl some
    | cons text texts =>
      rw [WrittenValue.text_items_cons]
      show (atItem false line column _ none before count).Yields tokens
      refine yields_of_atItem (quotable text List.mem_cons_self) (isSettled_none line)
        fun line column key count later => ?_
      refine yields_items (fun one member => quotable one (List.mem_cons_of_mem _ member)) starts
        later fun line count => ?_
      have next := yields line count
      simpa [valueTokens, itemTokens, listed] using next

/-- The tokens of a field. -/
def fieldTokens (field : WrittenField) : List Token :=
  .key :: .scalar (String.ofList field.key) true :: .value :: valueTokens field.value

/-- A value starts with a space or in a new line. -/
theorem startsVoid_valueText {value : WrittenValue} (sound : value.Sound) (rest : List Char)
    (line column : Nat) : startsVoid (place line column (value.text ++ rest)) = true := by
  cases value with
  | word text => rfl
  | quoted text => rfl
  | noItems => rfl
  | items texts =>
    cases texts with
    | nil => exact absurd rfl sound.1
    | cons text texts => rfl

/-- A field is read. -/
theorem yields_field {isFirst : Bool} {field : WrittenField} (sound : field.Sound)
    {rest : List Char} (starts : StartsField rest) {line : Nat} {before tokens : List Token}
    {count : Nat} (yields : ∀ line count, (atField false line rest
      ((fieldTokens field).reverse ++ opened isFirst before) count).Yields tokens) :
    (atField isFirst line (field.text ++ rest) before count).Yields tokens := by
  rw [WrittenField.text, List.append_assoc, List.cons_append, List.append_assoc]
  refine yields_of_atValue sound.word sound.start sound.short
    (startsVoid_valueText sound.value _ _ _) fun count => ?_
  refine yields_value sound.value starts fun line count => ?_
  have next := yields line count
  simpa [fieldTokens] using next

end Scanner

/-- A header of sound fields starts with one. -/
theorem startsField_headerText {fields : List WrittenField}
    (sound : ∀ field ∈ fields, field.Sound) : StartsField (headerText fields) := by
  cases fields with
  | nil => exact nofun
  | cons field fields =>
    obtain ⟨c, more, key, letter⟩ := (sound field List.mem_cons_self).head
    intro first member
    simp only [headerText, WrittenField.text, key, List.flatMap_cons, List.cons_append,
      List.head?_cons, Option.mem_def, Option.some.injEq] at member
    exact member ▸ letter

namespace Scanner

/-- The fields of a header are read, and the mapping is closed behind them. -/
theorem yields_fields {fields : List WrittenField} (sound : ∀ field ∈ fields, field.Sound)
    (line : Nat) (before : List Token) (count : Nat) :
    (atField false line (headerText fields) before count).Yields
      (before.reverse ++ (fields.flatMap fieldTokens ++ [.blockEnd])) := by
  induction fields generalizing line before count with
  | nil =>
    intro steps _
    unfold run
    simp [headerText, atField, place_nil, skip, finish?, forgetKey?, unroll, inFlow, closedBy]
  | cons field fields ih =>
    have later : ∀ field ∈ fields, field.Sound := fun one member =>
      sound one (List.mem_cons_of_mem _ member)
    refine yields_field (sound field List.mem_cons_self) (startsField_headerText later)
      fun line count => ?_
    have next := ih later line ((fieldTokens field).reverse ++ before) count
    simpa [opened] using next

end Scanner

/-- The tokens of a header. -/
def headerTokens (fields : List WrittenField) : List Token :=
  .blockMapping :: (fields.flatMap Scanner.fieldTokens ++ [.blockEnd])

/-- A text that can be quoted is allowed in YAML. -/
theorem all_isAllowed_of_isQuotable {text : List Char} (quotable : isQuotable text = true) :
    text.all isAllowed = true := by
  obtain ⟨plain, -⟩ := Bool.and_eq_true_iff.1 quotable
  refine List.all_eq_true.2 fun c member => ?_
  have known := List.all_eq_true.1 plain c member
  simp only [isQuotableCharacter, Bool.and_eq_true] at known
  exact known.1.1

/-- A word is allowed in YAML. -/
theorem all_isAllowed_of_isWord {word : List Char} (isWord : isWord word = true) :
    word.all isAllowed = true :=
  List.all_eq_true.2 fun c member =>
    isAllowed_of_isWordLetter (isWordLetter_of_isWord isWord c member)

/-- A sound value is allowed in YAML. -/
theorem all_isAllowed_valueText {value : WrittenValue} (sound : value.Sound) :
    value.text.all isAllowed = true := by
  have space : isAllowed ' ' = true := by decide
  have quote : isAllowed '"' = true := by decide
  cases value with
  | word text =>
    have letters := all_isAllowed_of_isWord sound
    simp only [WrittenValue.text, List.all_cons, space, letters, Bool.and_self]
  | quoted text =>
    have characters := all_isAllowed_of_isQuotable sound
    simp only [WrittenValue.text, List.all_cons, List.all_append, List.all_nil, space, quote,
      characters, Bool.and_self]
  | noItems => decide
  | items texts =>
    have start : ('\n' :: WrittenValue.itemStart).all isAllowed = true := by decide
    rw [WrittenValue.text, List.all_flatMap]
    refine List.all_eq_true.2 fun text member => ?_
    have characters := all_isAllowed_of_isQuotable (sound.2 text member)
    rw [← List.cons_append, ← List.cons_append, List.all_append, List.all_append, start, characters]
    simp only [List.all_cons, List.all_nil, quote, Bool.and_self]

/-- A header of sound fields is allowed in YAML. -/
theorem all_isAllowed_headerText {fields : List WrittenField}
    (sound : ∀ field ∈ fields, field.Sound) : (headerText fields).all isAllowed = true := by
  have colon : isAllowed ':' = true := by decide
  have ends : ∀ isSpaced, (WrittenField.ending isSpaced).all isAllowed = true := by decide
  rw [headerText, List.all_flatMap]
  refine List.all_eq_true.2 fun field member => ?_
  have key := all_isAllowed_of_isWord (sound field member).word
  have value := all_isAllowed_valueText (sound field member).value
  simp only [WrittenField.text, List.all_append, List.all_cons, key, colon, value, ends,
    Bool.and_self]

/-- A header with fields is read from the start. -/
theorem Scanner.yields_header {fields : List WrittenField} (some : fields ≠ [])
    (sound : ∀ field ∈ fields, field.Sound) :
    (atField true 0 (headerText fields) [] 0).Yields (headerTokens fields) := by
  cases fields with
  | nil => exact absurd rfl some
  | cons field fields =>
    have later : ∀ field ∈ fields, field.Sound := fun one member =>
      sound one (List.mem_cons_of_mem _ member)
    refine yields_field (sound field List.mem_cons_self) (startsField_headerText later)
      fun line count => ?_
    have next := yields_fields later line
      ((fieldTokens field).reverse ++ opened true []) count
    simpa [opened, headerTokens] using next

/-- The tokens of a written header are those of its fields, with line breaks unified. -/
theorem tokens?_headerText {fields : List WrittenField} (some : fields ≠ [])
    (sound : ∀ field ∈ fields, field.Sound) :
    tokens? (headerText fields) = .some (headerTokens (fields.map (·.map unifyBreaks))) := by
  have unified : unifyBreaks (headerText fields) = headerText (fields.map (·.map unifyBreaks)) := by
    have whole : unifyBreaks (headerText fields ++ []) =
        headerText (fields.map (·.map unifyBreaks)) ++ unifyBreaks [] :=
      keepsLines_unifyBreaks.headerText sound nofun
    simpa [unifyBreaks] using whole
  have kept := keepsLines_unifyBreaks.soundFields sound
  have some' : fields.map (·.map unifyBreaks) ≠ [] := by simpa using some
  generalize fields.map (·.map unifyBreaks) = read at unified kept some' ⊢
  have noMark : startsWith byteOrderMark (place 0 0 (headerText read)) = false := by
    cases head : headerText read with
    | nil => rfl
    | cons c rest =>
      have letter := startsField_headerText kept c (by rw [head]; rfl)
      have other : c ≠ byteOrderMark := by
        rintro rfl
        exact absurd letter (by decide)
      rw [place_cons]
      simp [startsWith, other]
  unfold tokens? letters?
  rw [if_pos (all_isAllowed_headerText sound), unified]
  simp only [Option.bind_eq_bind, Option.bind_some, noMark, Bool.false_eq_true, if_false]
  exact Scanner.yields_header some' kept _ (Nat.le_refl _)

end NoteTemplate.Yaml
