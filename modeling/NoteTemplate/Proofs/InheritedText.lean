import NoteTemplate.Proofs.Session
import NoteTemplate.Proofs.TextMerging

/-!
# The text that a chain of parents leads to

A chain leads from a template over its parent and the parent's parent to a template that
names none. The text that such a template is loaded with is written out from the outline
that the chain amounts to: from the last template on, each outline is filled in from the
one of the template before.
-/

namespace NoteTemplate

open Template (Outline scan? withoutParentTags)

/-- A chain of stored templates: each names the next as its parent, and the last names
none. -/
inductive MemoryStore.Extends (store : MemoryStore) : List (String × Source) → Prop where
  /-- A template without a parent. -/
  | root {name : String} {source : Source} (allowed : isTemplateName name = true)
      (found : store.stored? name = some source) (last : source.parent? = none) :
      Extends store [(name, source)]
  /-- A template whose parent starts a chain. -/
  | child {name parent : String} {source above : Source} {rest : List (String × Source)}
      (allowed : isTemplateName name = true) (found : store.stored? name = some source)
      (next : source.parent? = some parent) (upper : Extends store ((parent, above) :: rest)) :
      Extends store ((name, source) :: (parent, above) :: rest)

/-- The outline of a template without the tags that name a parent. -/
def Source.scan? (source : Source) : Option Outline :=
  Template.scan? (withoutParentTags source.text.toList)

/-- The outline that the templates of a chain amount to: that of the last one, filled in from
each of the others in turn. There is none if a template, or an outline to be filled in, is
not balanced or nested too deep. -/
def effectiveOutline? : List Source → Option Outline
  | [] => none
  | [root] => root.scan?
  | source :: above :: rest => do
    let child ← source.scan?
    let parent ← (effectiveOutline? (above :: rest)).filter (·.depth ≤ Template.nestingLimit)
    return parent.filledFrom child

namespace Template

/-- Where no tag names a parent, none is removed. -/
theorem withoutParentTags_of_none {text : List Char} (last : parentName? text = none) :
    withoutParentTags text = text := by
  have kept : ∀ (reversed text : List Char), parentName? text = none →
      removeParentTags reversed 0 text = reversed.reverse ++ text := by
    intro reversed text
    induction text generalizing reversed with
    | nil => simp [removeParentTags]
    | cons c rest ih =>
      intro last
      rw [parentName?] at last
      cases found : takeParentTag? (c :: rest) with
      | some tag => simp [found] at last
      | none =>
        rw [found] at last
        rw [removeParentTags, found]
        simpa using ih (c :: reversed) last
  exact kept [] text last

end Template

/-- The first two templates of a chain are filled in once the others are. -/
theorem effectiveOutline?_cons {source above : Source} {rest : List Source} {outline : Outline} :
    effectiveOutline? (source :: above :: rest) = some outline ↔
      ∃ parent child, effectiveOutline? (above :: rest) = some parent ∧
        parent.depth ≤ Template.nestingLimit ∧ source.scan? = some child ∧
        outline = parent.filledFrom child := by
  rw [effectiveOutline?]
  constructor
  · intro effective
    obtain ⟨child, own, rest⟩ := Option.bind_eq_some_iff.1 effective
    obtain ⟨parent, upper, same⟩ := Option.bind_eq_some_iff.1 rest
    obtain ⟨upper, within⟩ := Option.filter_eq_some_iff.1 upper
    exact ⟨parent, child, upper, of_decide_eq_true within, own, (Option.some.inj same).symm⟩
  · rintro ⟨parent, child, upper, within, own, rfl⟩
    have kept : (some parent).filter (fun parent => parent.depth ≤ Template.nestingLimit) =
        some parent := Option.filter_some_pos (decide_eq_true within)
    simp only [upper, own, kept, bind, Option.bind_some, pure]

/-- What the templates of a chain amount to is well formed. -/
theorem effectiveOutline?_wellFormed {sources : List Source} :
    ∀ {outline : Outline}, effectiveOutline? sources = some outline → outline.WellFormed := by
  induction sources with
  | nil => exact fun absent => nomatch absent
  | cons source above ih =>
    intro outline effective
    cases above with
    | nil => exact (Template.scan?_eq_some_iff.1 effective).1
    | cons above rest =>
      obtain ⟨parent, child, upper, _, own, rfl⟩ := effectiveOutline?_cons.1 effective
      exact (ih upper).filledFrom (Template.scan?_eq_some_iff.1 own).1

/-- A template with an outline fills a parent with an outline in as the outlines do. -/
theorem fillIn_of_scan? {name parent : String} {source : Source} {above child : Outline}
    {stamps : List NameStamp} (own : source.scan? = some child)
    (upper : scan? above.source = some above) :
    fillIn name parent source ⟨some (String.ofList above.source), stamps, []⟩ =
      ⟨some (String.ofList (above.filledFrom child).source),
        (name, some source.modified) :: stamps, []⟩ := by
  obtain ⟨bodies, defined, same⟩ := Template.blockBodies?_of_scan? own
  have merged := Template.merge_of_scan? upper same
  simp only [fillIn, defined, String.toList_ofList, merged]

/-- A template of a chain resolves to the text of what the chain amounts to, below all
templates that do not occur in the chain. -/
theorem MemoryStore.Extends.resolves {store : MemoryStore} {templates : List (String × Source)}
    (linked : store.Extends templates) :
    ∀ (chain : List String) (outline : Outline), (chain ++ templates.map Prod.fst).Nodup →
      effectiveOutline? (templates.map Prod.snd) = some outline →
      ∀ first ∈ templates.head?, ∃ stamps, Resolves store.stored? chain first.1
        (.ok ⟨some (String.ofList outline.source), stamps, []⟩) := by
  induction linked with
  | @root name source allowed found last =>
    rintro chain outline _ effective _ ⟨⟩
    obtain ⟨_, same, _⟩ := Template.scan?_eq_some_iff.1 (effective : source.scan? = some outline)
    have root : Resolves store.stored? chain name (.ok (.ofRoot name source)) := .root found last
    rw [same, Template.withoutParentTags_of_none last, String.ofList_toList]
    exact ⟨_, root⟩
  | @child name parent source above rest allowed found next upper ih =>
    rintro chain outline distinct effective _ ⟨⟩
    obtain ⟨top, own, higher, within, scanned, rfl⟩ := effectiveOutline?_cons.1 effective
    have later : (chain ++ [name] ++ ((parent, above) :: rest).map Prod.fst).Nodup := by
      rw [List.append_assoc]
      exact distinct
    have new : parent ∉ chain ++ [name] := fun met =>
      (List.nodup_append.1 later).2.2 parent met parent List.mem_cons_self rfl
    have parentAllowed : isTemplateName parent = true := by
      cases upper with
      | root allowed => exact allowed
      | child allowed => exact allowed
    obtain ⟨stamps, resolves⟩ := ih _ top later higher _ rfl
    have rescanned : scan? top.source = some top :=
      Template.scan?_eq_some_iff.2 ⟨effectiveOutline?_wellFormed higher, rfl, within⟩
    have filled := Resolves.filled found next new parentAllowed resolves
    rw [fillIn_of_scan? scanned rescanned] at filled
    exact ⟨_, filled⟩

/-- A template at the start of a chain is loaded with the text that the chain amounts to,
whatever the engine did before. -/
theorem MemoryStore.Extends.load {store : MemoryStore} {name : String} {source : Source}
    {rest : List (String × Source)} (linked : store.Extends ((name, source) :: rest))
    (distinct : (((name, source) :: rest).map Prod.fst).Nodup) {outline : Outline}
    (effective : effectiveOutline? (((name, source) :: rest).map Prod.snd) = some outline)
    (limit capacity : Nat) (before : List EngineStep) :
    ((store.shelf.load name).run
        (EngineStep.cacheAfter limit store (.ofCapacity capacity) before)).1 =
      .ok (some (.ofText name (String.ofList outline.source) [])) := by
  have allowed : isTemplateName name = true := by
    cases linked with
    | root allowed => exact allowed
    | child allowed => exact allowed
  obtain ⟨stamps, resolves⟩ := linked.resolves [] outline distinct effective _ rfl
  have prepares : store.Prepares name
      (.ok (some (.ofText name (String.ofList outline.source) []))) := ⟨_, resolves, rfl⟩
  obtain ⟨answer, prepared, answers⟩ := load_answers store.within_history allowed
  obtain rfl := prepared.functional prepares
  exact (answers _ (EngineStep.cacheAfter_coherent store.within_history limit before _
    (Cache.coherent_ofCapacity store.history capacity))).1

/-- Filling in parents is substitution. The scan of a text reads its tree of plain text and
blocks if the blocks are balanced and nested within the limit. Filling a parent in writes the
parent's tree out with the bodies of its outermost blocks that the child defines replaced; if
that is within the limit it is read as the same tree again, and filling it in again from the
child changes nothing. A template at the start of a chain of parents is loaded with the text
that folding this over the chain leads to. -/
theorem inheritance_eq_substitution :
    (∀ text, Template.isBalanced 0 (Template.marks text) = (scan? text).isSome ∧
      ∀ outline, scan? text = some outline ↔ outline.WellFormed ∧ outline.source = text ∧
        outline.depth ≤ Template.nestingLimit) ∧
    (∀ parentText childText parent child, scan? parentText = some parent →
      scan? childText = some child →
      ∃ bodies, Template.blockBodies? childText = some bodies ∧
        Template.merge parentText bodies = (parent.filledFrom child).source ∧
        ((parent.filledFrom child).depth ≤ Template.nestingLimit →
          scan? (Template.merge parentText bodies) = some (parent.filledFrom child) ∧
          Template.merge (Template.merge parentText bodies) bodies =
            Template.merge parentText bodies)) ∧
    (∀ (store : MemoryStore) (name : String) (source : Source) (rest : List (String × Source))
      (outline : Outline), store.Extends ((name, source) :: rest) →
      (((name, source) :: rest).map Prod.fst).Nodup →
      effectiveOutline? (((name, source) :: rest).map Prod.snd) = some outline →
      ∀ (limit capacity : Nat) (before : List EngineStep),
        ((store.shelf.load name).run
            (EngineStep.cacheAfter limit store (.ofCapacity capacity) before)).1 =
          .ok (some (.ofText name (String.ofList outline.source) []))) := by
  refine ⟨fun text => ⟨Template.isBalanced_marks text, fun _ => Template.scan?_eq_some_iff⟩, ?_,
    fun _ _ _ _ _ linked distinct effective => linked.load distinct effective⟩
  intro parentText childText parent child above below
  obtain ⟨bodies, defined, same⟩ := Template.blockBodies?_of_scan? below
  have merged := Template.merge_of_scan? above same
  have parentFormed := (Template.scan?_eq_some_iff.1 above).1
  have childFormed := (Template.scan?_eq_some_iff.1 below).1
  refine ⟨bodies, defined, merged, fun within => ?_⟩
  have again : scan? (parent.filledFrom child).source = some (parent.filledFrom child) :=
    Template.scan?_eq_some_iff.2 ⟨parentFormed.filledFrom childFormed, rfl, within⟩
  rw [merged]
  refine ⟨again, ?_⟩
  rw [Template.merge_of_scan? again same, Outline.filledFrom_filledFrom]

/-- The text of a block. -/
def blockText (name body : String) : String :=
  Template.tagText ("block \"" ++ name ++ "\"") ++ body ++ Template.tagText "/block"

/-- A layout with a block inside another. -/
def layout : Source := ⟨blockText "top" ("T" ++ blockText "in" "I") ++ "|", 1⟩

/-- A child of the layout that adds a block. -/
def refinement : Source :=
  ⟨Template.tagText "extends \"base\"" ++ blockText "in" ("J" ++ blockText "leaf" ""), 2⟩

/-- A child of the refinement. -/
def page : Source := ⟨Template.tagText "extends \"middle\"" ++ blockText "leaf" "L", 3⟩

/-- A store with a page, its parent and the parent's parent. -/
def pages : MemoryStore := ⟨[("base", layout), ("middle", refinement), ("page", page)], 3⟩

/-- The page is loaded over its parents, and filling the layout in twice is filling it in
once. -/
theorem pages_inheritance :
    (∃ bodies, Template.blockBodies? (withoutParentTags refinement.text.toList) = some bodies ∧
      Template.merge (Template.merge layout.text.toList bodies) bodies =
        Template.merge layout.text.toList bodies) ∧
    ((pages.shelf.load "page").run
        (EngineStep.cacheAfter 8 pages (.ofCapacity 1) [.load "middle"])).1 =
      .ok (some (.ofText "page" (blockText "top" ("T" ++ blockText "in" ("J" ++
        blockText "leaf" "L")) ++ "|") [])) := by
  obtain ⟨_, merging, loading⟩ := inheritance_eq_substitution
  constructor
  · have depths : ((scan? layout.text.toList).bind fun parent =>
        (scan? (withoutParentTags refinement.text.toList)).map fun child =>
          (parent.filledFrom child).depth) = some 3 := by decide +kernel
    obtain ⟨parent, above, rest⟩ := Option.bind_eq_some_iff.1 depths
    obtain ⟨child, below, deep⟩ := Option.map_eq_some_iff.1 rest
    obtain ⟨bodies, defined, _, again⟩ := merging _ _ parent child above below
    have within : (parent.filledFrom child).depth ≤ Template.nestingLimit :=
      Nat.le_trans (Nat.le_of_eq deep) (by decide)
    exact ⟨bodies, defined, (again within).2⟩
  · have linked : pages.Extends [("page", page), ("middle", refinement), ("base", layout)] :=
      .child (by decide) rfl (by decide) (.child (by decide) rfl (by decide)
        (.root (by decide) rfl (by decide)))
    have written : (effectiveOutline? [page, refinement, layout]).map Outline.source =
        some (blockText "top" ("T" ++ blockText "in" ("J" ++ blockText "leaf" "L")) ++
          "|").toList := by decide +kernel
    obtain ⟨outline, effective, same⟩ := Option.map_eq_some_iff.1 written
    rw [loading pages "page" page _ outline linked (by decide) effective 8 1 _, same,
      String.ofList_toList]

end NoteTemplate
