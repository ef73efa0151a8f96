import Mathlib
import NoteTemplate.Template.Function

/-!
# Lists of tags

The tag of a text is a number sign and what is left of the text. White space is removed from the
ends of the text, and then number signs from its front, once each (`tagName`). When white space
stands behind these signs, it stays in the tag, and removing on would leave less (`LeavesBare`). The
list of tags that is written (`call_tagList`) is the one of what is left at last exactly if this
happens to none of the texts.
-/

namespace NoteTemplate.Template

open Relation (ReflTransGen)
open Text (IsGap exists_trim exists_trimEnd isBlank not_of_head_dropWhile trim trimEnd)

/-! ## What is left of a text -/

/-- One character is removed: white space at either end, or a number sign at the front. -/
inductive Sheds : List Char → List Char → Prop where
  /-- White space at the front. -/
  | front {c : Char} (blank : isBlank c = true) (rest : List Char) : Sheds (c :: rest) rest
  /-- A number sign at the front. -/
  | sign (rest : List Char) : Sheds ('#' :: rest) rest
  /-- White space at the back. -/
  | back {c : Char} (blank : isBlank c = true) (rest : List Char) : Sheds (rest ++ [c]) rest

/-- What is left when characters are removed until none can be. -/
def LeavesBare (text bare : List Char) : Prop :=
  ReflTransGen Sheds text bare ∧ ∀ next, ¬ Sheds bare next

/-- A text with neither white space nor number signs at its front, and without white space at its
back. -/
structure IsBare (text : List Char) : Prop where
  /-- The first character. -/
  start : ∀ c ∈ text.head?, isBlank c = false ∧ c ≠ '#'
  /-- The last character. -/
  stop : ∀ c ∈ text.getLast?, isBlank c = false

/-- From a bare text nothing can be removed. -/
theorem isBare_iff {text : List Char} : IsBare text ↔ ∀ next, ¬ Sheds text next := by
  constructor
  · rintro bare next sheds
    cases sheds with
    | front blank => cases blank.symm.trans (bare.start _ rfl).1
    | sign => exact (bare.start _ rfl).2 rfl
    | back blank => cases blank.symm.trans (bare.stop _ (by simp))
  · intro none
    constructor
    · intro c first
      obtain ⟨rest, rfl⟩ := List.head?_eq_some_iff.1 first
      refine ⟨Bool.eq_false_iff.2 fun blank => none _ (.front blank rest), ?_⟩
      rintro rfl
      exact none _ (.sign rest)
    · intro c last
      obtain ⟨rest, rfl⟩ := List.getLast?_eq_some_iff.1 last
      exact Bool.eq_false_iff.2 fun blank => none _ (.back blank rest)

/-- White space and number signs at the front can be removed. -/
theorem sheds_front {front : List Char} (loose : ∀ c ∈ front, isBlank c = true ∨ c = '#')
    (rest : List Char) : ReflTransGen Sheds (front ++ rest) rest := by
  induction front with
  | nil => exact .refl
  | cons c front ih =>
    obtain ⟨first, later⟩ := List.forall_mem_cons.1 loose
    refine .head ?_ (ih later)
    rcases first with blank | rfl
    · exact .front blank _
    · exact .sign _

/-- White space at the back can be removed. -/
theorem sheds_back {back : List Char} (gap : IsGap back) (rest : List Char) :
    ReflTransGen Sheds (rest ++ back) rest := by
  induction back using List.reverseRecOn with
  | nil => rw [List.append_nil]
  | append_singleton back c ih =>
    have blank : isBlank c = true := gap c (by simp)
    have earlier : IsGap back := fun d member => gap d (List.mem_append_left _ member)
    rw [← List.append_assoc]
    exact .head (.back blank _) (ih earlier)

/-- A text without white space and number signs at its front, and then without white space at its
back. -/
def bareName (text : List Char) : List Char :=
  trimEnd (text.dropWhile fun c => isBlank c || c = '#')

/-- White space at the back is removed as a whole. -/
theorem trimEnd_concat {c : Char} (blank : isBlank c = true) (text : List Char) :
    trimEnd (text ++ [c]) = trimEnd text := by
  simp [trimEnd, blank]

/-- Removing a character does not change what is left at last. -/
theorem Sheds.bareName_eq {text next : List Char} (sheds : Sheds text next) :
    bareName next = bareName text := by
  cases sheds with
  | front blank => simp [bareName, blank]
  | sign => simp [bareName]
  | back blank =>
    simp only [bareName, List.dropWhile_append]
    split
    · rename_i empty
      rw [List.isEmpty_iff.1 empty]
      simp [blank]
    · exact (trimEnd_concat blank _).symm

/-- Nothing can be removed from what is left at last. -/
theorem isBare_bareName (text : List Char) : IsBare (bareName text) := by
  obtain ⟨behind, -, stop, whole⟩ := exists_trimEnd (text.dropWhile fun c => isBlank c || c = '#')
  refine ⟨fun c first => ?_, stop⟩
  have dropped : c ∈ (text.dropWhile fun c => isBlank c || c = '#').head? := by
    rw [whole, List.head?_append]
    rw [bareName] at first
    rw [Option.mem_def.1 first]
    rfl
  have kept := not_of_head_dropWhile c dropped
  simpa using kept

/-- What is left at last can be reached. -/
theorem sheds_bareName (text : List Char) : ReflTransGen Sheds text (bareName text) := by
  let loose : Char → Bool := fun c => isBlank c || c = '#'
  obtain ⟨behind, gap, -, whole⟩ := exists_trimEnd (text.dropWhile loose)
  have front : ReflTransGen Sheds (text.takeWhile loose ++ text.dropWhile loose)
      (text.dropWhile loose) := by
    apply sheds_front
    intro c member
    have passed : loose c = true := List.all_eq_true.1 List.all_takeWhile c member
    simpa [loose] using passed
  have back : ReflTransGen Sheds (trimEnd (text.dropWhile loose) ++ behind) (bareName text) :=
    sheds_back gap _
  rw [List.takeWhile_append_dropWhile] at front
  rw [← whole] at back
  exact front.trans back

/-- Nothing is removed from a bare text. -/
theorem IsBare.bareName_eq {bare : List Char} (sharp : IsBare bare) : bareName bare = bare := by
  cases (sheds_bareName bare).cases_head with
  | inl same => exact same.symm
  | inr shed =>
    obtain ⟨next, sheds, -⟩ := shed
    exact absurd sheds (isBare_iff.1 sharp next)

/-- What can be reached leaves the same at last. -/
theorem bareName_eq_of_sheds {text next : List Char} (sheds : ReflTransGen Sheds text next) :
    bareName next = bareName text := by
  induction sheds with
  | refl => rfl
  | tail _ last ih => rw [last.bareName_eq, ih]

/-- What is left at last does not depend on the order in which characters are removed. -/
theorem leavesBare_iff {text bare : List Char} : LeavesBare text bare ↔ bareName text = bare := by
  constructor
  · rintro ⟨sheds, none⟩
    rw [← bareName_eq_of_sheds sheds, (isBare_iff.2 none).bareName_eq]
  · rintro rfl
    exact ⟨sheds_bareName text, isBare_iff.1 (isBare_bareName text)⟩

/-! ## What the name of a tag is -/

/-- White space stands behind the number signs at the front of a text. -/
def HasLooseSign (text : List Char) : Prop :=
  ∃ signs c rest, signs ≠ [] ∧ (∀ d ∈ signs, d = '#') ∧ isBlank c = true ∧
    trim text = signs ++ c :: rest

/-- The name of a tag is what stands behind the number signs of a trimmed text. -/
theorem exists_signs (text : List Char) :
    ∃ signs, (∀ d ∈ signs, d = '#') ∧ trim text = signs ++ tagName text := by
  refine ⟨(trim text).takeWhile (· = '#'), fun d member => ?_, ?_⟩
  · have passed := List.all_eq_true.1 List.all_takeWhile d member
    exact of_decide_eq_true passed
  · rw [tagName, List.takeWhile_append_dropWhile]

/-- The name of a tag is reached by removing characters. -/
theorem sheds_tagName (text : List Char) : ReflTransGen Sheds text (tagName text) := by
  obtain ⟨before, behind, front, back, -, whole⟩ := exists_trim text
  obtain ⟨signs, only, core⟩ := exists_signs text
  have started : ReflTransGen Sheds text (trim text ++ behind) := by
    conv_lhs => rw [whole]
    exact sheds_front (fun c member => .inl (front c member)) _
  have trimmed : ReflTransGen Sheds (trim text ++ behind) (trim text) := sheds_back back _
  have named : ReflTransGen Sheds (trim text) (tagName text) := by
    conv_lhs => rw [core]
    exact sheds_front (fun c member => .inr (only c member)) _
  exact started.trans (trimmed.trans named)

/-- The name of a tag does not start with a number sign. -/
theorem head?_tagName (text : List Char) : (tagName text).head? ≠ some '#' := by
  intro first
  have kept : decide ('#' = '#') = false := not_of_head_dropWhile (p := (· = '#')) '#' first
  simp at kept

/-- White space does not end the name of a tag. -/
theorem getLast?_tagName {text : List Char} : ∀ c ∈ (tagName text).getLast?, isBlank c = false := by
  intro c last
  obtain ⟨-, -, -, -, sharp, -⟩ := exists_trim text
  obtain ⟨signs, -, core⟩ := exists_signs text
  apply sharp.stop
  rw [core, List.getLast?_append, Option.mem_def.1 last]
  rfl

/-- White space starts the name of a tag exactly if it stands behind the number signs. -/
theorem hasLooseSign_iff {text : List Char} :
    HasLooseSign text ↔ ∃ c rest, isBlank c = true ∧ tagName text = c :: rest := by
  constructor
  · rintro ⟨signs, c, rest, -, only, blank, core⟩
    refine ⟨c, rest, blank, ?_⟩
    have passed : ∀ d ∈ signs, decide (d = '#') = true := fun d member =>
      decide_eq_true (only d member)
    have other : ¬ decide (c = '#') = true := by
      rintro sign
      rw [of_decide_eq_true sign] at blank
      cases blank
    rw [tagName, core, List.dropWhile_append_of_pos passed, List.dropWhile_cons,
      if_neg other]
  · rintro ⟨c, rest, blank, name⟩
    obtain ⟨signs, only, core⟩ := exists_signs text
    obtain ⟨-, -, -, -, sharp, -⟩ := exists_trim text
    rw [name] at core
    refine ⟨signs, c, rest, ?_, only, blank, core⟩
    rintro rfl
    cases blank.symm.trans (sharp.start c (by rw [core]; rfl))

/-- The name of a tag is what is left of the text at last unless white space stands behind the
number signs. -/
theorem leavesBare_tagName_iff {text : List Char} :
    LeavesBare text (tagName text) ↔ ¬ HasLooseSign text := by
  rw [hasLooseSign_iff]
  constructor
  · rintro ⟨-, none⟩ ⟨c, rest, blank, name⟩
    exact none rest (name ▸ .front blank rest)
  · intro tight
    refine ⟨sheds_tagName text, isBare_iff.1 ⟨fun c first => ⟨?_, ?_⟩, getLast?_tagName⟩⟩
    · obtain ⟨rest, name⟩ := List.head?_eq_some_iff.1 first
      exact Bool.eq_false_iff.2 fun blank => tight ⟨c, rest, blank, name⟩
    · rintro rfl
      exact head?_tagName text first

/-! ## The list -/

/-- The tags with given names; a name of no characters has none. -/
def tagsOf (names : List (List Char)) : List String :=
  (names.filter (· ≠ [])).map fun name => String.ofList ('#' :: name)

/-- The characters that the tag of a name takes, with one space. -/
def room (name : List Char) : Nat := if name = [] then 0 else name.length + 2

/-- How long texts are with a space between each two. -/
theorem length_joined (texts : List String) :
    (Text.joined " " texts).length = (texts.map fun text => text.length + 1).sum - 1 := by
  induction texts with
  | nil => rfl
  | cons text texts ih =>
    cases texts with
    | nil => simp [Text.joined]
    | cons next texts =>
      have space : " ".length = 1 := rfl
      simp only [Text.joined] at ih ⊢
      rw [String.intercalate_cons_cons, String.length_append, String.length_append, ih, space]
      simp only [List.map_cons, List.sum_cons]
      omega

/-- The tags of names take the room of the names. -/
theorem sum_tagsOf (names : List (List Char)) :
    ((tagsOf names).map fun tag => tag.length + 1).sum = (names.map room).sum := by
  induction names with
  | nil => rfl
  | cons name names ih =>
    by_cases empty : name = []
    · subst empty
      simpa [tagsOf, room] using ih
    · simp only [tagsOf] at ih ⊢
      rw [List.filter_cons_of_pos (by simpa using empty), List.map_cons, List.map_cons,
        List.sum_cons, ih, List.map_cons, List.sum_cons, room, if_neg empty, String.length_ofList,
        List.length_cons]

/-- A longer name takes more room. -/
theorem room_lt {shorter longer : List Char} (less : shorter.length < longer.length) :
    room shorter < room longer := by
  have filled : longer ≠ [] := by
    rintro rfl
    cases less
  rw [room, room, if_neg filled]
  split <;> omega

/-- Removing characters makes no text longer. -/
theorem length_le_of_sheds {text next : List Char} (sheds : ReflTransGen Sheds text next) :
    next.length ≤ text.length := by
  induction sheds with
  | refl => exact Nat.le_refl _
  | tail _ step ih =>
    cases step with
    | front | sign => exact Nat.le_of_succ_le ih
    | back =>
      rw [List.length_append] at ih
      exact Nat.le_of_succ_le ih

/-- What is left at last is shorter than the name of the tag where white space stands behind the
number signs. -/
theorem length_bareName_lt {text : List Char} (loose : HasLooseSign text) :
    (bareName text).length < (tagName text).length := by
  obtain ⟨c, rest, blank, name⟩ := hasLooseSign_iff.1 loose
  have same : bareName text = bareName rest := by
    rw [← bareName_eq_of_sheds (sheds_tagName text), name, (Sheds.front blank rest).bareName_eq]
  rw [same, name, List.length_cons]
  exact Nat.lt_succ_of_le (length_le_of_sheds (sheds_bareName rest))

/-- The names of tags and what is left of the texts at last make the same list of tags exactly if
white space stands behind the number signs of none. -/
theorem joined_tagsOf_eq_iff (texts : List (List Char)) :
    Text.joined " " (tagsOf (texts.map tagName)) = Text.joined " " (tagsOf (texts.map bareName)) ↔
      ∀ text ∈ texts, ¬ HasLooseSign text := by
  have tight : ∀ {text}, ¬ HasLooseSign text → bareName text = tagName text := fun none =>
    leavesBare_iff.1 (leavesBare_tagName_iff.2 none)
  constructor
  · intro same text member loose
    -- A looser name makes the whole list longer.
    have lengths := congrArg String.length same
    rw [length_joined, length_joined, sum_tagsOf, sum_tagsOf, List.map_map, List.map_map] at lengths
    have less : (texts.map (room ∘ bareName)).sum < (texts.map (room ∘ tagName)).sum := by
      refine List.sum_lt_sum _ _ (fun other _ => ?_)
        ⟨text, member, room_lt (length_bareName_lt loose)⟩
      by_cases looser : HasLooseSign other
      · exact Nat.le_of_lt (room_lt (length_bareName_lt looser))
      · exact Nat.le_of_eq (congrArg room (tight looser))
    have filled : room (tagName text) ≤ (texts.map (room ∘ tagName)).sum :=
      List.single_le_sum (fun _ _ => Nat.zero_le _) _
        (List.mem_map_of_mem (f := room ∘ tagName) member)
    have three : 3 ≤ room (tagName text) := by
      obtain ⟨c, rest, -, name⟩ := hasLooseSign_iff.1 loose
      rw [name, room, if_neg (List.cons_ne_nil _ _), List.length_cons]
      omega
    omega
  · intro none
    rw [List.map_congr_left fun text member => (tight (none text member)).symm]

/-- The list of tags of a list of values, or of a text that is cut at its commas, has the tags in
the order of the texts, with one space between each two. The name of a tag is reached from its text
by removing white space from the ends and number signs from the front; it does not start with a
number sign and white space does not end it. A text whose name has no characters has no tag. Nothing
more can be removed from the name exactly if no white space stands behind the number signs of the
trimmed text, and the list is the one of what is left at last exactly if this is so for all
texts. -/
theorem call_tagList {lookup : Lookup} {source : String} {argument : Argument}
    {others : List Argument} (read : readArguments source.toList = argument :: others) :
    let texts := tagSources (argument.value lookup)
    let tags := Text.joined " " (tagsOf (texts.map tagName))
    call lookup "tag_list" source = .ok tags ∧
      (∀ text ∈ texts, ReflTransGen Sheds text (tagName text) ∧ (tagName text).head? ≠ some '#' ∧
        (∀ c ∈ (tagName text).getLast?, isBlank c = false) ∧
        (LeavesBare text (tagName text) ↔ ¬ HasLooseSign text)) ∧
      ((∃ names, List.Forall₂ LeavesBare texts names ∧ tags = Text.joined " " (tagsOf names)) ↔
        ∀ text ∈ texts, ¬ HasLooseSign text) := by
  intro texts tags
  have called : call lookup "tag_list" source = .ok tags := by
    have enough : ¬ (argument :: others).length < 1 := by simp
    rw [call_eq_callOn, read]
    simp only [callOn, function?, if_neg enough]
    rfl
  refine ⟨called, fun text _ => ⟨sheds_tagName text, head?_tagName text, getLast?_tagName,
    leavesBare_tagName_iff⟩, ?_⟩
  rw [← joined_tagsOf_eq_iff]
  have bare : ∀ names, List.Forall₂ LeavesBare texts names ↔ texts.map bareName = names := by
    intro names
    have shape : LeavesBare = fun text bare => bareName text = bare :=
      funext fun text => funext fun bare => propext leavesBare_iff
    rw [shape, ← List.forall₂_map_left_iff (R := Eq), List.forall₂_eq_eq_eq]
  simp only [bare, exists_eq_left']
  rfl

/-- Of a list with white space behind the number sign of its first text, that text has a tag that
starts with white space. What is left of the text at last makes another list. -/
theorem call_tagList_looseSign :
    let lookup : Lookup := fun path =>
      if path = "tags" then some (.list [.string " # a", .string "##b", .string "#"]) else none
    readArguments "tags".toList = [⟨"tags".toList, false⟩] ∧
      call lookup "tag_list" "tags" = .ok "# a #b" ∧
      HasLooseSign " # a".toList ∧
      ¬ ∃ names, List.Forall₂ LeavesBare [" # a".toList, "##b".toList, "#".toList] names ∧
        "# a #b" = Text.joined " " (tagsOf names) := by
  intro lookup
  have read : readArguments "tags".toList = [⟨"tags".toList, false⟩] := by decide +kernel
  have texts : tagSources (Argument.value lookup ⟨"tags".toList, false⟩) =
      [" # a".toList, "##b".toList, "#".toList] := by
    cbv
  have tags : Text.joined " " (tagsOf ([" # a".toList, "##b".toList, "#".toList].map tagName)) =
      "# a #b" := by
    decide +kernel
  have loose : HasLooseSign " # a".toList :=
    ⟨['#'], ' ', ['a'], List.cons_ne_nil _ _, by simp, by decide, by decide⟩
  obtain ⟨called, -, exactly⟩ := @call_tagList lookup _ _ _ read
  simp only [texts, tags] at called exactly
  exact ⟨read, called, loose, fun bare => exactly.1 bare _ List.mem_cons_self loose⟩

end NoteTemplate.Template
