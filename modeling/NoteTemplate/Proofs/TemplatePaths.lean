import NoteTemplate.Store.Folder

/-!
# Paths of template files

The file of a template is named for it, with an ending behind the name, and lies in a folder. The
name holds nothing that means anything in a path (`isTemplateName_iff`), so the path of the file is
the path of the folder with one part more (`IsFlat.rawParts_join`), and the name is read off it by
the rules for the endings of file names (`templateNameOf?_eq_some_iff`, `templateNameOf?_eq_stem`).
-/

namespace NoteTemplate

namespace Path

/-! ## Parts below a folder -/

/-- What stands between the path of a folder and a part behind it. -/
def separator (base : String) : String :=
  if base.toList.getLast?.all (· = '/') then "" else "/"

/-- The parts that a path below a folder has in front of its last one. -/
def partsAround (base : String) : List String := (rawParts (base ++ separator base)).dropLast

/-- A single part of a path, with at least one character. -/
structure IsFlat (part : String) : Prop where
  /-- It is not empty. -/
  filled : part ≠ ""
  /-- It has no slash. -/
  single : '/' ∉ part.toList

/-- The path of a folder is empty or made to end in a slash. -/
theorem append_separator (base : String) :
    base = "" ∧ separator base = "" ∨
      ∃ front, (base ++ separator base).toList = front ++ ['/'] ∧
        (base.toList = front ∨ base.toList = front ++ ['/']) := by
  cases last : base.toList.getLast? with
  | none =>
    refine .inl ⟨String.toList_eq_nil_iff.1 (List.getLast?_eq_none_iff.1 last), ?_⟩
    simp [separator, last]
  | some c =>
    obtain ⟨front, text⟩ := List.getLast?_eq_some_iff.1 last
    by_cases slash : c = '/'
    · subst slash
      exact .inr ⟨front, by simp [separator, text], .inr text⟩
    · exact .inr ⟨base.toList, by simp [separator, last, slash], .inl rfl⟩

variable {base part : String}

/-- A part is put behind the path of a folder. -/
theorem IsFlat.join_eq (flat : IsFlat part) (base : String) :
    join base part = base ++ separator base ++ part := by
  have relative : part.toList.head? ≠ some '/' := fun first =>
    flat.single (List.mem_of_mem_head? first)
  unfold join
  split
  · rename_i rooted
    exact absurd rooted relative
  · rename_i none _
    have empty : base = "" := String.toList_eq_nil_iff.1 (List.getLast?_eq_none_iff.1 none)
    simp [empty, separator]
  · rename_i slash _
    simp [separator, slash]
  · rename_i c other last _
    have different : ¬ c = '/' := other
    simp [separator, last, different]

/-- A path below a folder is that of the folder and one part more. -/
theorem IsFlat.rawParts_join (flat : IsFlat part) (base : String) :
    rawParts (join base part) = partsAround base ++ [part] := by
  rw [flat.join_eq, partsAround, rawParts, rawParts, String.toList_append]
  rcases append_separator base with ⟨empty, none⟩ | ⟨front, text, -⟩
  · subst empty
    simp [none, Text.splitOn, Text.splitOn_of_not_mem flat.single]
  · rw [text, List.append_assoc, List.singleton_append, Text.splitOn_middle, Text.splitOn_middle,
      Text.splitOn_of_not_mem flat.single]
    simp [Text.splitOn]

/-- The path of a folder leads through the parts in front of what is below it. -/
theorem parts_eq (base : String) :
    parts base = (partsAround base).filter fun part => part ≠ "" ∧ part ≠ "." := by
  rcases append_separator base with ⟨empty, none⟩ | ⟨front, text, whole | whole⟩
  · subst empty
    simp [none, parts, partsAround, rawParts, Text.splitOn]
  · rw [parts, partsAround, rawParts, rawParts, text, Text.splitOn_middle, whole]
    simp [Text.splitOn]
  · rw [parts, partsAround, rawParts, rawParts, text, whole, Text.splitOn_middle]
    simp [Text.splitOn]

/-- The path of a folder that is not empty leads through the parts in front of what is below it, and
at most one empty part more. -/
theorem rawParts_eq (filled : base ≠ "") :
    rawParts base = partsAround base ∨ rawParts base = partsAround base ++ [""] := by
  rcases append_separator base with ⟨empty, -⟩ | ⟨front, text, whole⟩
  · exact absurd empty filled
  · have around : partsAround base = (Text.splitOn '/' front).map String.ofList := by
      rw [partsAround, rawParts, text, Text.splitOn_middle]
      simp [Text.splitOn]
    rcases whole with bare | slashed
    · exact .inl (by rw [rawParts, bare, around])
    · right
      rw [rawParts, slashed, Text.splitOn_middle, List.map_append, around]
      rfl

/-- A path below a folder leads through one part more than the path of the folder. -/
theorem IsFlat.parts_join (flat : IsFlat part) (named : part ≠ ".") (base : String) :
    parts (join base part) = parts base ++ [part] := by
  rw [parts_eq base, parts, flat.rawParts_join, List.filter_append]
  simp [flat.filled, named]

/-- A path below a folder starts where the path of the folder starts. -/
theorem IsFlat.isRooted_join (flat : IsFlat part) (base : String) :
    isRooted (join base part) = isRooted base := by
  have relative : part.toList.head? ≠ some '/' := fun first =>
    flat.single (List.mem_of_mem_head? first)
  rw [flat.join_eq, isRooted, isRooted]
  by_cases empty : base = ""
  · subst empty
    simpa [separator] using relative
  · obtain ⟨c, rest, text⟩ := List.exists_cons_of_ne_nil (mt String.toList_eq_nil_iff.1 empty)
    simp [text]

/-- A path below a folder is not empty. -/
theorem IsFlat.join_ne_empty (flat : IsFlat part) (base : String) : join base part ≠ "" := by
  rw [flat.join_eq]
  intro empty
  exact flat.filled (String.append_eq_empty_iff.1 empty).2

/-! ## Endings of file names -/

/-- The name of a file without its ending, and the ending: what stands on both sides of the last
dot. A name without dots, or with none but one at its front, has no ending. -/
def cutEnding (fileName : List Char) : List Char × Option (List Char) :=
  match Text.cutAt? '.' fileName.reverse with
  | some (ending, c :: before) => ((c :: before).reverse, some ending.reverse)
  | _ => (fileName, none)

end Path

/-! ## Names of templates -/

/-- The names that a template can have. -/
theorem isTemplateName_iff {name : String} :
    isTemplateName name = true ↔ name ≠ "" ∧ name.length ≤ nameLimit ∧
      name.toList.head? ≠ some '.' ∧ ∀ c ∈ name.toList, isTemplateNameCharacter c = true := by
  unfold isTemplateName nameFault?
  split
  · rename_i empty
    simp [String.isEmpty_iff.1 empty]
  · rename_i filled
    rw [String.isEmpty_iff] at filled
    split
    · rename_i long
      simp [filled, Nat.not_le.2 long]
    · rename_i short
      split
      · rename_i hidden
        simp [hidden]
      · rename_i shown
        simp [filled, Nat.not_lt.1 short, shown]

/-- The name of the file of a template is a single part that does not start with a dot, and holds
neither a backslash nor the character that no path may hold. -/
theorem isFlat_templateFileName {name : String} (allowed : isTemplateName name = true) :
    Path.IsFlat (templateFileName name) ∧ '\\' ∉ (templateFileName name).toList ∧
      '\x00' ∉ (templateFileName name).toList ∧
      (templateFileName name).toList.head? ≠ some '.' := by
  obtain ⟨filled, -, start, good⟩ := isTemplateName_iff.1 allowed
  have text : (templateFileName name).toList = name.toList ++ ['.', 'm', 'd'] := by
    simp [templateFileName, templateEnding]
  have free : ∀ c, isTemplateNameCharacter c = false → c ∉ ['.', 'm', 'd'] →
      c ∉ (templateFileName name).toList := by
    intro c bad apart member
    rw [text] at member
    rcases List.mem_append.1 member with inside | ending
    · cases bad.symm.trans (good c inside)
    · exact apart ending
  have front : (templateFileName name).toList.head? = name.toList.head? := by
    obtain ⟨c, rest, whole⟩ := List.exists_cons_of_ne_nil (mt String.toList_eq_nil_iff.1 filled)
    simp [text, whole]
  refine ⟨⟨?_, free _ (by decide) (by decide)⟩, free _ (by decide) (by decide),
    free _ (by decide) (by decide), front ▸ start⟩
  intro empty
  simp [templateFileName, templateEnding] at empty

/-- A file is that of a template exactly if it is named for it. -/
theorem templateNameOf?_eq_some_iff {fileName name : String} :
    templateNameOf? fileName = some name ↔
      fileName = templateFileName name ∧ isTemplateName name = true := by
  have cut : Path.nameBefore? templateEnding fileName = some name ↔
      fileName = templateFileName name := by
    rw [Path.nameBefore?, Option.map_eq_some_iff, templateFileName, ← String.toList_inj,
      String.toList_append]
    constructor
    · rintro ⟨reversed, found, rfl⟩
      have whole := Text.dropFront?_eq_some_iff.1 found
      rw [← List.reverse_reverse fileName.toList, whole]
      simp
    · intro whole
      refine ⟨name.toList.reverse, Text.dropFront?_eq_some_iff.2 ?_, by simp⟩
      rw [whole, List.reverse_append]
  rw [templateNameOf?, Option.filter_eq_some_iff, cut]

/-- Different names have different files. -/
theorem templateFileName_inj {name other : String}
    (same : templateFileName name = templateFileName other) : name = other := by
  have texts := congrArg String.toList same
  rw [templateFileName, templateFileName, String.toList_append, String.toList_append] at texts
  exact String.toList_inj.1 (List.append_cancel_right texts)

/-- An ending stands behind the last dot, with something in front of that. -/
theorem cutEnding_eq_iff {fileName stem ending : List Char} :
    Path.cutEnding fileName = (stem, some ending) ↔
      stem ≠ [] ∧ '.' ∉ ending ∧ fileName = stem ++ '.' :: ending := by
  constructor
  · intro cut
    unfold Path.cutEnding at cut
    split at cut
    · rename_i last c before found
      obtain ⟨rfl, same⟩ := Prod.mk.inj cut
      obtain rfl := Option.some.inj same
      obtain ⟨free, whole⟩ := Text.cutAt?_eq_some_iff.1 found
      refine ⟨by simp, fun member => free (List.mem_reverse.1 member), ?_⟩
      rw [← List.reverse_reverse fileName, whole]
      simp
    · cases (Prod.mk.inj cut).2
  · rintro ⟨filled, free, rfl⟩
    obtain ⟨c, before, reversed⟩ := List.exists_cons_of_ne_nil (List.reverse_ne_nil_iff.2 filled)
    have found : Text.cutAt? '.' (stem ++ '.' :: ending).reverse =
        some (ending.reverse, c :: before) := by
      refine Text.cutAt?_eq_some_iff.2 ⟨fun member => free (List.mem_reverse.1 member), ?_⟩
      rw [← reversed]
      simp
    have back : (c :: before).reverse = stem := by rw [← reversed, List.reverse_reverse]
    simp only [Path.cutEnding, found, back, List.reverse_reverse]

/-- The template of a file is told by the ending of the name of the file. -/
theorem templateNameOf?_eq_stem (fileName : String) :
    templateNameOf? fileName =
      match Path.cutEnding fileName.toList with
      | (stem, some ending) =>
        if ending = "md".toList then (some (String.ofList stem)).filter isTemplateName else none
      | (_, none) => none := by
  apply Option.ext
  intro name
  rw [templateNameOf?_eq_some_iff]
  constructor
  · rintro ⟨rfl, allowed⟩
    have filled : name.toList ≠ [] :=
      mt String.toList_eq_nil_iff.1 (ne_empty_of_isTemplateName allowed)
    have cut : Path.cutEnding (templateFileName name).toList = (name.toList, some "md".toList) :=
      cutEnding_eq_iff.2 ⟨filled, by decide, by simp [templateFileName, templateEnding]⟩
    simp [cut, allowed]
  · intro found
    split at found
    · rename_i stem ending cut
      obtain ⟨-, -, whole⟩ := cutEnding_eq_iff.1 cut
      split at found
      · rename_i isEnding
        obtain ⟨same, allowed⟩ := Option.filter_eq_some_iff.1 found
        obtain rfl := Option.some.inj same
        refine ⟨?_, allowed⟩
        rw [← String.toList_inj, whole, isEnding]
        simp [templateFileName, templateEnding]
      · cases found
    · cases found

end NoteTemplate
