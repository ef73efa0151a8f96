import NoteTemplate.Proofs.TagReading

/-!
# Where the tokens of a template find their tags

The first tag of a text ends with the first closing braces behind any opening braces, and
starts with the last opening braces before those. So every stretch between two opening and
two closing braces that holds no other brace is, up to one more opening brace, one of the
tags (`firstTag?_covers`).
-/

namespace NoteTemplate.Template

open Text (cutBefore? cutBeforeFrom?)

/-- A suffix of two texts lies in the second, or holds all of it. -/
theorem suffix_append_cases {α : Type} {suffix front back : List α}
    (ends : suffix <:+ front ++ back) :
    suffix <:+ back ∨ ∃ more, more ≠ [] ∧ more <:+ front ∧ suffix = more ++ back := by
  obtain ⟨before, same⟩ := ends
  rcases List.append_eq_append_iff.1 same with ⟨more, rfl, rfl⟩ | ⟨more, rfl, rfl⟩
  · cases more with
    | nil => exact .inl List.suffix_rfl
    | cons c more => exact .inr ⟨c :: more, List.cons_ne_nil _ _, List.suffix_append _ _, rfl⟩
  · exact .inl (List.suffix_append _ _)

/-- A cut is made at the first place where the pattern stands. -/
theorem cutBeforeFrom?_first {pattern reversed text before found : List Char}
    (cut : cutBeforeFrom? pattern reversed text = some (before, found)) :
    ∃ front, before = reversed.reverse ++ front ∧
      ∀ suffix, suffix ≠ [] → suffix <:+ front → ¬ pattern <+: suffix ++ found := by
  induction text generalizing reversed with
  | nil =>
    unfold cutBeforeFrom? at cut
    split at cut
    · cases cut
      exact ⟨[], (List.append_nil _).symm, fun _ filled ends =>
        absurd (List.suffix_nil.1 ends) filled⟩
    · cases cut
  | cons c rest ih =>
    unfold cutBeforeFrom? at cut
    split at cut
    · cases cut
      exact ⟨[], (List.append_nil _).symm, fun _ filled ends =>
        absurd (List.suffix_nil.1 ends) filled⟩
    · rename_i elsewhere
      obtain ⟨front, rfl, first⟩ := ih cut
      have whole := cutBeforeFrom?_append cut
      simp only [List.reverse_cons, List.append_assoc, List.append_cancel_left_eq] at whole
      refine ⟨c :: front, by simp, fun suffix filled ends => ?_⟩
      rcases List.suffix_cons_iff.1 ends with rfl | later
      · intro starts
        have here : (c :: front) ++ found = c :: rest := congrArg (c :: ·) whole
        rw [here] at starts
        exact elsewhere (List.isPrefixOf_iff_prefix.2 starts)
      · exact first suffix filled later

/-- A cut is made at the first place where the pattern stands. -/
theorem cutBefore?_first {pattern text before found : List Char}
    (cut : cutBefore? pattern text = some (before, found)) :
    ∀ suffix, suffix ≠ [] → suffix <:+ before → ¬ pattern <+: suffix ++ found := by
  obtain ⟨front, rfl, first⟩ := cutBeforeFrom?_first cut
  exact first

/-- Without a cut the pattern stands nowhere. -/
theorem cutBeforeFrom?_none {pattern reversed text : List Char}
    (uncut : cutBeforeFrom? pattern reversed text = none) :
    ∀ suffix, suffix <:+ text → ¬ pattern <+: suffix := by
  induction text generalizing reversed with
  | nil =>
    unfold cutBeforeFrom? at uncut
    split at uncut
    · cases uncut
    · rename_i filled
      intro suffix ends starts
      rw [List.suffix_nil.1 ends, List.prefix_nil] at starts
      exact filled (List.isEmpty_iff.2 starts)
  | cons c rest ih =>
    unfold cutBeforeFrom? at uncut
    split at uncut
    · cases uncut
    · rename_i elsewhere
      intro suffix ends
      rcases List.suffix_cons_iff.1 ends with rfl | later
      · exact fun starts => elsewhere (List.isPrefixOf_iff_prefix.2 starts)
      · exact ih uncut suffix later

/-- Without a last opening, opening braces stand nowhere. -/
theorem cutLastOpening?_none {text : List Char} (uncut : cutLastOpening? text = none) :
    ∀ suffix, suffix <:+ text → ¬ opening <+: suffix := by
  induction text with
  | nil =>
    intro suffix ends starts
    rw [List.suffix_nil.1 ends] at starts
    exact absurd (List.prefix_nil.1 starts) (by decide)
  | cons c rest ih =>
    unfold cutLastOpening? at uncut
    split at uncut
    · cases uncut
    · rename_i later
      split at uncut
      · cases uncut
      · rename_i elsewhere
        intro suffix ends
        rcases List.suffix_cons_iff.1 ends with rfl | inner
        · exact fun starts => elsewhere (List.isPrefixOf_iff_prefix.2 starts)
        · exact ih later suffix inner

/-- Behind the last opening, no other starts. -/
theorem cutLastOpening?_last {text before behind : List Char}
    (cut : cutLastOpening? text = some (before, behind)) :
    ∀ suffix, suffix <:+ '{' :: behind → ¬ opening <+: suffix := by
  induction text generalizing before with
  | nil => cases cut
  | cons c rest ih =>
    unfold cutLastOpening? at cut
    split at cut
    · rename_i found
      cases cut
      exact ih found
    · rename_i none
      split at cut
      · rename_i starts
        cases cut
        obtain ⟨tail, same⟩ := List.isPrefixOf_iff_prefix.1 starts
        obtain rfl : '{' :: tail = rest := (List.cons.inj same).2
        exact cutLastOpening?_none none
      · cases cut

/-- The first closing braces behind a content are those that follow it. -/
def EndsFirst (content : List Char) : Prop :=
  ∀ suffix, suffix ≠ [] → suffix <:+ content → ¬ closing <+: suffix ++ closing

/-- Only one content in front of closing braces has no closing brace and ends first. -/
theorem EndsFirst.unique {content braceless behind rest : List Char} (first : EndsFirst content)
    (free : '}' ∉ braceless)
    (same : content ++ (closing ++ behind) = braceless ++ (closing ++ rest)) :
    content = braceless ∧ behind = rest := by
  rcases List.append_eq_append_iff.1 same with ⟨more, rfl, spans⟩ | ⟨more, rfl, spans⟩
  · cases more with
    | nil => exact ⟨(List.append_nil _).symm, List.append_cancel_left spans⟩
    | cons c more =>
      have brace : '}' = c := (List.cons.inj spans).1
      exact absurd (List.mem_append_right _ (brace ▸ List.mem_cons_self)) free
  · cases more with
    | nil => exact ⟨List.append_nil _, (List.append_cancel_left spans).symm⟩
    | cons c more =>
      exfalso
      refine first (c :: more) (List.cons_ne_nil _ _) (List.suffix_append _ _) ?_
      have starts : closing <+: (c :: more ++ closing) ++ behind := by
        rw [List.append_assoc, ← spans]
        exact List.prefix_append _ _
      exact List.prefix_of_prefix_length_le starts (List.prefix_append _ _) (by simp [closing])

/-- A content that ends first does so from every place in it. -/
theorem EndsFirst.suffix {content suffix : List Char} (first : EndsFirst content)
    (ends : suffix <:+ content) : EndsFirst suffix :=
  fun more filled inner => first more filled (inner.trans ends)

/-- How the first tag is found: by the first opening braces, the first closing braces behind
them, and the last opening braces in between, if there are any. -/
theorem firstTag?_eq_some {text before content behind : List Char}
    (found : firstTag? text = some (before, content, behind)) :
    ∃ front outer, text = front ++ (opening ++ (outer ++ (closing ++ behind))) ∧
      (∀ suffix, suffix ≠ [] → suffix <:+ front →
        ¬ opening <+: suffix ++ (opening ++ (outer ++ (closing ++ behind)))) ∧
      EndsFirst outer ∧
      ((cutLastOpening? outer = none ∧ before = front ∧ content = outer) ∨
        ∃ more, cutLastOpening? outer = some (more, content) ∧
          before = front ++ (opening ++ more)) := by
  unfold firstTag? at found
  split at found
  · cases found
  · rename_i front rest cutOpen
    obtain ⟨inside, rfl⟩ := cutBefore?_found cutOpen
    split at found
    · cases found
    · rename_i outer after cutClose
      obtain ⟨last, rfl⟩ := cutBefore?_found cutClose
      have inner : outer ++ (closing ++ last) = inside := cutBefore?_append cutClose
      have firstClosing := cutBefore?_first cutClose
      have first : EndsFirst outer := by
        intro suffix filled ends starts
        refine firstClosing suffix filled ends ?_
        rw [← List.append_assoc]
        exact starts.trans (List.prefix_append _ _)
      refine ⟨front, outer, ?_⟩
      split at found
      · rename_i uncut
        cases found
        refine ⟨?_, ?_, first, .inl ⟨uncut, rfl, rfl⟩⟩
        · rw [← cutBefore?_append cutOpen, ← inner]
          rfl
        · have firstOpening := cutBefore?_first cutOpen
          rw [← inner] at firstOpening
          exact firstOpening
      · rename_i more inner' cut
        cases found
        refine ⟨?_, ?_, first, .inr ⟨more, cut, List.append_assoc _ _ _⟩⟩
        · rw [← cutBefore?_append cutOpen, ← inner]
          rfl
        · have firstOpening := cutBefore?_first cutOpen
          rw [← inner] at firstOpening
          exact firstOpening

/-- The content of the first tag ends first. -/
theorem firstTag?_endsFirst {text before content behind : List Char}
    (found : firstTag? text = some (before, content, behind)) : EndsFirst content := by
  obtain ⟨front, outer, _, _, first, ⟨_, _, rfl⟩ | ⟨more, cut, _⟩⟩ := firstTag?_eq_some found
  · exact first
  · refine first.suffix ?_
    rw [← cutLastOpening?_append cut]
    exact List.suffix_append _ _

/-- The last opening braces in a text with an opening brace only at its front are none. -/
theorem cutLastOpening?_brace {text : List Char} (free : '{' ∉ text) :
    cutLastOpening? ('{' :: text) = none := by
  cases cut : cutLastOpening? ('{' :: text) with
  | none => rfl
  | some pair =>
    obtain ⟨before, behind⟩ := pair
    have whole := cutLastOpening?_append cut
    cases before with
    | nil =>
      obtain rfl : '{' :: behind = text := (List.cons.inj whole).2
      exact absurd List.mem_cons_self free
    | cons c before =>
      obtain rfl : before ++ opening ++ behind = text := (List.cons.inj whole).2
      exact absurd (by simp [opening]) free

/-- What follows the last opening braces is what follows any that no opening brace follows. -/
theorem cutLastOpening?_suffix {text before behind inner : List Char}
    (cut : cutLastOpening? text = some (before, behind)) (free : '{' ∉ inner)
    (ends : opening ++ inner <:+ text) : inner = behind := by
  have last := cutLastOpening?_last cut
  have other : opening ++ behind <:+ text := by
    rw [← cutLastOpening?_append cut, List.append_assoc]
    exact List.suffix_append _ _
  rcases List.suffix_or_suffix_of_suffix ends other with shorter | longer
  · rcases List.suffix_cons_iff.1 shorter with same | inside
    · exact (List.cons.inj (List.cons.inj same).2).2
    · exact absurd (List.prefix_append _ _) (last _ inside)
  · rcases List.suffix_cons_iff.1 longer with same | inside
    · exact (List.cons.inj (List.cons.inj same).2).2.symm
    · rcases List.suffix_cons_iff.1 inside with same | within
      · obtain rfl : '{' :: behind = inner := (List.cons.inj same).2
        exact absurd List.mem_cons_self free
      · exact absurd (within.subset List.mem_cons_self) free

/-- A stretch between braces that holds no others lies behind the first tag, or is the tag,
or is the tag without another opening brace at its front. -/
theorem firstTag?_covers {text before content behind inner rest : List Char}
    (found : firstTag? text = some (before, content, behind))
    (braceless : ∀ c ∈ inner, IsBraceless c)
    (ends : opening ++ (inner ++ (closing ++ rest)) <:+ text) :
    opening ++ (inner ++ (closing ++ rest)) <:+ behind ∨
      rest = behind ∧ (inner = content ∨ '{' :: inner = content) := by
  have openFree : '{' ∉ inner := fun member => (braceless _ member).1 rfl
  have closeFree : '}' ∉ inner := fun member => (braceless _ member).2 rfl
  obtain ⟨front, outer, rfl, firstOpening, first, shape⟩ := firstTag?_eq_some found
  rcases suffix_append_cases ends with fromTag | ⟨more, filled, inFront, same⟩
  · rcases List.suffix_cons_iff.1 fromTag with same | fromBrace
    · have inside : outer ++ (closing ++ behind) = inner ++ (closing ++ rest) :=
        (List.cons.inj (List.cons.inj same).2).2.symm
      obtain ⟨rfl, rfl⟩ := first.unique closeFree inside
      rcases shape with ⟨_, _, rfl⟩ | ⟨more, cut, _⟩
      · exact .inr ⟨rfl, .inl rfl⟩
      · rw [← cutLastOpening?_append cut] at openFree
        exact absurd (by simp [opening]) openFree
    · rcases List.suffix_cons_iff.1 fromBrace with same | fromContent
      · have inside : outer ++ (closing ++ behind) = ('{' :: inner) ++ (closing ++ rest) :=
          (List.cons.inj same).2.symm
        have closeFree' : '}' ∉ '{' :: inner := by simpa using closeFree
        obtain ⟨rfl, rfl⟩ := first.unique closeFree' inside
        rcases shape with ⟨_, _, rfl⟩ | ⟨more, cut, _⟩
        · exact .inr ⟨rfl, .inr rfl⟩
        · cases (cutLastOpening?_brace openFree).symm.trans cut
      · have fromContent : opening ++ (inner ++ (closing ++ rest)) <:+
            outer ++ (closing ++ behind) := fromContent
        rcases suffix_append_cases fromContent with fromClosing | ⟨more, _, inOuter, same⟩
        · rcases List.suffix_cons_iff.1 fromClosing with same | fromSecond
          · exact absurd (List.cons.inj same).1 (by decide)
          · rcases List.suffix_cons_iff.1 fromSecond with same | later
            · exact absurd (List.cons.inj same).1 (by decide)
            · exact .inl later
        · have inside : more ++ (closing ++ behind) = (opening ++ inner) ++ (closing ++ rest) := by
            rw [← same, List.append_assoc]
          have closeFree' : '}' ∉ opening ++ inner := by simpa [opening] using closeFree
          obtain ⟨rfl, rfl⟩ := (first.suffix inOuter).unique closeFree' inside
          rcases shape with ⟨uncut, _, _⟩ | ⟨more, cut, _⟩
          · exact absurd (List.prefix_append _ _) (cutLastOpening?_none uncut _ inOuter)
          · exact .inr ⟨rfl, .inl (cutLastOpening?_suffix cut openFree inOuter)⟩
  · refine absurd ?_ (firstOpening more filled inFront)
    rw [← same]
    exact List.prefix_append _ _

/-- Without a first tag there is no stretch between opening and closing braces. -/
theorem firstTag?_none {text inner rest : List Char} (missing : firstTag? text = none)
    (ends : opening ++ (inner ++ (closing ++ rest)) <:+ text) : False := by
  unfold firstTag? at missing
  split at missing
  · rename_i uncut
    exact cutBeforeFrom?_none uncut _ ends (List.prefix_append _ _)
  · rename_i front found cutOpen
    split at missing
    · rename_i uncut
      obtain ⟨inside, rfl⟩ := cutBefore?_found cutOpen
      have nowhere : ∀ suffix, suffix <:+ inside → ¬ closing <+: suffix :=
        cutBeforeFrom?_none uncut
      rw [← cutBefore?_append cutOpen] at ends
      rcases suffix_append_cases ends with fromTag | ⟨more, filled, inFront, same⟩
      · have closes : closing ++ rest <:+ inside := by
          have short : closing ++ rest <:+ '{' :: '{' :: inside :=
            (List.suffix_append _ _).trans ((List.suffix_append opening _).trans fromTag)
          rcases List.suffix_cons_iff.1 short with same | fromBrace
          · exact absurd (List.cons.inj same).1 (by decide)
          · rcases List.suffix_cons_iff.1 fromBrace with same | within
            · exact absurd (List.cons.inj same).1 (by decide)
            · exact within
        exact nowhere _ closes (List.prefix_append _ _)
      · refine cutBefore?_first cutOpen more filled inFront ?_
        rw [← same]
        exact List.prefix_append _ _
    · split at missing
      · cases missing
      · cases missing

end NoteTemplate.Template
