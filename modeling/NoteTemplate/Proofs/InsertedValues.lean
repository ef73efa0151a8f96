import NoteTemplate.Document
import NoteTemplate.Validation
import NoteTemplate.Proofs.ReachedAborts
import NoteTemplate.Proofs.RelatedRendering

/-!
# Inserted values are not read again

A template that uses a name only to insert its value renders to the same texts around the
insertions, whatever text the name is bound to, or is aborted for every text
(`renderText_inserts`): tags inside the value mean nothing. For a body, the output is woven from
the texts of the template and from holes for the value (`renderBody_woven`).
-/

namespace NoteTemplate.Template

/-- Whether some nodes leave some names alone can be computed. -/
instance (changed : List String) (nodes : List Node) : Decidable (Untouched changed nodes) :=
  inferInstanceAs (Decidable (∀ node ∈ nodes, ∀ path ∈ node.paths, firstSegment path ∉ changed))

/-- A node uses a name, if at all, to insert the value that is bound to it, and an iteration
does not use it at all. -/
def Node.UsesBarely (name : String) : Node → Prop
  | .variable path => firstSegment path = name → path = name
  | .each path body => Untouched [name] (Node.each path body).flatten
  | node => Untouched [name] [node]

/-- Whether a node uses a name only to insert its value can be computed. -/
instance (name : String) (node : Node) : Decidable (node.UsesBarely name) := by
  unfold Node.UsesBarely
  split <;> infer_instance

section Pieces

/-- The text of pieces, with a value for the missing ones. -/
def filled (value : String) : List (Option String) → String
  | [] => ""
  | piece :: rest => piece.getD value ++ filled value rest

/-- The text of pieces one behind another. -/
theorem filled_append (value : String) (pieces others : List (Option String)) :
    filled value (pieces ++ others) = filled value pieces ++ filled value others := by
  induction pieces with
  | nil => simp [filled]
  | cons piece rest ih => simp only [List.cons_append, filled, ih, String.append_assoc]

/-- The texts before, between and behind the missing pieces. -/
def segmentsOf : List (Option String) → List String
  | [] => [""]
  | none :: rest => "" :: segmentsOf rest
  | some text :: rest =>
    match segmentsOf rest with
    | [] => [text]
    | first :: others => (text ++ first) :: others

/-- There is always a text before the first missing piece. -/
theorem segmentsOf_ne_nil (pieces : List (Option String)) : segmentsOf pieces ≠ [] := by
  cases pieces with
  | nil => simp [segmentsOf]
  | cons piece rest =>
    cases piece with
    | none => simp [segmentsOf]
    | some text =>
      simp only [segmentsOf]
      split <;> simp

/-- The texts around the missing pieces, joined by the value, are the text of all pieces. -/
theorem joined_segmentsOf (value : String) (pieces : List (Option String)) :
    Text.joined value (segmentsOf pieces) = filled value pieces := by
  induction pieces with
  | nil => rfl
  | cons piece rest ih =>
    obtain ⟨first, others, segments⟩ := List.exists_cons_of_ne_nil (segmentsOf_ne_nil rest)
    rw [segments] at ih
    cases piece with
    | none =>
      simp only [segmentsOf, segments, filled, Option.getD_none, ← ih, Text.joined]
      simp [String.intercalate_cons_cons]
    | some text =>
      simp only [segmentsOf, segments, filled, Option.getD_some, ← ih, Text.joined]
      cases others <;> simp [String.intercalate_cons_cons, String.append_assoc]

end Pieces

section Woven

variable {σ : Type}

/-- For every value, what is rendered is made of the same pieces, with the value in the place of
the missing ones, and with the same warnings, or the rendering is aborted for every value. -/
def Woven (render : String → Attempt σ Fragment) : Prop :=
  (∃ pieces warnings, ∀ value, render value = pure ⟨filled value pieces, warnings⟩) ∨
    ∀ value, render value = throw .aborted

namespace Woven

variable {render others : String → Attempt σ Fragment}

/-- A fragment that does not depend on the value is woven. -/
theorem constant (fragment : Fragment) : Woven fun _ => (pure fragment : Attempt σ Fragment) :=
  .inl ⟨[some fragment.text], fragment.warnings, fun _ => by simp [filled]⟩

/-- The value by itself is woven. -/
theorem hole : Woven fun value => (pure (Fragment.ofText value) : Attempt σ Fragment) :=
  .inl ⟨[none], [], fun _ => by simp [filled, Fragment.ofText]⟩

/-- A rendering that is known and alike for all values is woven. -/
theorem of_knownAlike
    (alike : ∀ value, KnownAlike (· = .aborted) (render value) (render "")) : Woven render := by
  obtain ⟨answer, fits, known, -⟩ := alike ""
  have same : render = fun _ => Attempt.ofExcept answer := by
    funext value
    obtain ⟨other, -, here, there⟩ := alike value
    rw [here, ← there, known]
  cases answer with
  | ok fragment => exact same ▸ constant fragment
  | error failure =>
    obtain rfl := fits failure rfl
    exact .inr fun value => congrFun same value

/-- One woven fragment behind another is woven. -/
theorem append (first : Woven render) (later : Woven others) :
    Woven fun value => do
      let fragment ← render value
      let rest ← others value
      return fragment.append rest := by
  rcases first with ⟨pieces, warnings, known⟩ | aborted
  · rcases later with ⟨morePieces, moreWarnings, knownLater⟩ | aborted
    · refine .inl ⟨pieces ++ morePieces, warnings ++ moreWarnings, fun value => ?_⟩
      simp only [known, knownLater, pure_bind, Fragment.append, filled_append]
    · refine .inr fun value => ?_
      simp only [known, pure_bind, aborted]
      rfl
  · refine .inr fun value => ?_
    simp only [aborted]
    rfl

/-- A woven fragment is woven with a warning before it. -/
theorem after (woven : Woven render) (before : List Warning) :
    Woven fun value => do
      let fragment ← render value
      return fragment.after before := by
  rcases woven with ⟨pieces, warnings, known⟩ | aborted
  · exact .inl
      ⟨pieces, before ++ warnings, fun value => by simp only [known, pure_bind, Fragment.after]⟩
  · refine .inr fun value => ?_
    simp only [aborted]
    rfl

end Woven

/-- A scope outside all iterations in which a name is bound to a text. -/
def scopeBinding (context : Context) (name value : String) : Scope :=
  ⟨context.insert name (.string value), []⟩

/-- Whatever texts a name is bound to, the scopes agree in all other names. -/
theorem scopeBinding_agreeOff (context : Context) (name value other : String) :
    (scopeBinding context name value).AgreeOff [name] (scopeBinding context name other) := by
  refine ⟨rfl, fun word different => ?_⟩
  have unequal : word ≠ name := fun same => different (same ▸ List.mem_cons_self)
  simp only [scopeBinding, Context.insert, Context.get?, Fields.find?_insert, if_neg unequal]

/-- The name itself leads to the text that it is bound to. -/
theorem scopeBinding_lookup (context : Context) {name : String} (value : String)
    (whole : firstSegment name = name) :
    (scopeBinding context name value).lookup name = some (.string value) := by
  have segments := pathSegments_of_firstSegment whole
  simp [Scope.lookup, scopeBinding, segments, Context.resolve, Context.insert, Context.get?,
    Fields.find?_insert, Value.descend]

section Rendering

variable {insert : Scope → String → Attempt σ Fragment} {context : Context} {name : String}

/-- Some nodes include no template, and use a name only to insert its value. -/
structure InsertPlainly (name : String) (nodes : List Node) : Prop where
  /-- They include no template. -/
  nothing : IncludeNothing nodes
  /-- They use the name only to insert its value. -/
  barely : ∀ node ∈ nodes, node.UsesBarely name

/-- A part of such nodes is alike. -/
theorem InsertPlainly.of_subset {part nodes : List Node} (plainly : InsertPlainly name nodes)
    (subset : part ⊆ nodes) : InsertPlainly name part :=
  ⟨fun included line member => plainly.nothing included line (subset member),
    fun node member => plainly.barely node (subset member)⟩

/-- What a node that leaves the name alone renders to does not depend on the value. -/
theorem renderNode_woven_of_untouched {node : Node} (plainly : InsertPlainly name node.flatten)
    (untouched : Untouched [name] node.flatten) :
    Woven fun value => renderNode insert (scopeBinding context name value) node := by
  refine .of_knownAlike fun value => ?_
  have insertions : InsertionsRelated (KnownAlike (· = .aborted)) [name] insert insert
      node.flatten := fun included line member => absurd member (plainly.nothing included line)
  have aborts : AbortsPermitted (· = .aborted) node.flatten := fun _ _ _ => rfl
  exact renderNode_related composes_knownAlike node untouched aborts insertions _ _
    (scopeBinding_agreeOff context name value "")

mutual

/-- What a node renders to that inserts the name plainly is woven. -/
theorem renderNode_woven :
    ∀ node : Node, InsertPlainly name node.flatten →
      Woven fun value => renderNode insert (scopeBinding context name value) node
  | .text text, plainly =>
    renderNode_woven_of_untouched plainly (plainly.barely (.text text) (Node.mem_flatten _))
  | .variable path, plainly => by
    have whole : firstSegment path = name → path = name :=
      plainly.barely (.variable path) (Node.mem_flatten _)
    by_cases here : firstSegment path = name
    · have same := whole here
      subst same
      simp only [renderNode, renderVariable, scopeBinding_lookup context _ here, Value.display]
      exact .hole
    · have untouched : Untouched [name] (Node.variable path).flatten := by
        simpa [Untouched, Node.flatten, Node.paths] using here
      exact renderNode_woven_of_untouched plainly untouched
  | .call function source line, plainly =>
    renderNode_woven_of_untouched plainly
      (plainly.barely (.call function source line) (Node.mem_flatten _))
  | .choice branches none, plainly => by
    have words := plainly.barely (.choice branches none) (Node.mem_flatten _) _ List.mem_cons_self
    exact renderBranches_woven branches
      (fun _ member path word => words path (Node.mem_paths_choice member word))
      (plainly.of_subset Node.flattenBranches_subset_flatten) (.constant _)
  | .choice branches (some body), plainly => by
    have words := plainly.barely (.choice branches (some body)) (Node.mem_flatten _) _
      List.mem_cons_self
    have last := renderBody_woven body (plainly.of_subset Node.last_subset_flatten)
    exact renderBranches_woven branches
      (fun _ member path word => words path (Node.mem_paths_choice member word))
      (plainly.of_subset Node.flattenBranches_subset_flatten) last
  | .each path body, plainly =>
    renderNode_woven_of_untouched plainly (plainly.barely (.each path body) (Node.mem_flatten _))
  | .block _ body, plainly =>
    renderBody_woven body (plainly.of_subset Node.block_subset_flatten)
  | .inclusion included line, plainly =>
    absurd (Node.mem_flatten (.inclusion included line)) (plainly.nothing included line)
  | .parent other, plainly =>
    renderNode_woven_of_untouched plainly (plainly.barely (.parent other) (Node.mem_flatten _))
  | .unknown tag line, plainly =>
    renderNode_woven_of_untouched plainly
      (plainly.barely (.unknown tag line) (Node.mem_flatten _))

/-- What a body renders to that inserts the name plainly is woven. -/
theorem renderBody_woven :
    ∀ nodes : List Node, InsertPlainly name (Node.flattenAll nodes) →
      Woven fun value => renderBody insert (scopeBinding context name value) nodes
  | [], _ => .constant _
  | node :: rest, plainly => by
    have first := renderNode_woven node (plainly.of_subset Node.flatten_subset_flattenAll)
    have others := renderBody_woven rest (plainly.of_subset Node.flattenAll_subset_cons)
    exact first.append others

/-- A choice whose conditions leave the name alone is woven when its bodies are. -/
theorem renderBranches_woven :
    ∀ branches : List (String × List Node),
      (∀ branch ∈ branches, ∀ path ∈ conditionPaths branch.1, firstSegment path ∉ [name]) →
      InsertPlainly name (Node.flattenBranches branches) →
      ∀ {otherwise : String → Attempt σ Fragment}, Woven otherwise →
        Woven fun value =>
          renderBranches insert (scopeBinding context name value) (otherwise value) branches
  | [], _, _, _, last => last
  | (condition, body) :: rest, words, plainly, _, last => by
    have taken := renderBody_woven body
      (plainly.of_subset Node.flattenAll_subset_flattenBranches)
    have passed := renderBranches_woven rest
      (fun branch member => words branch (List.mem_cons_of_mem _ member))
      (plainly.of_subset Node.flattenBranches_subset_cons) last
    have same : ∀ value, judge (scopeBinding context name value).lookup condition =
        judge (scopeBinding context name "").lookup condition := fun value =>
      judge_congr fun path word =>
        (scopeBinding_agreeOff context name value "").lookup_eq
          (words (condition, body) List.mem_cons_self path word)
    -- The condition is judged alike for all values, so one branch is taken for all of them.
    cases verdict : judge (scopeBinding context name "").lookup condition with
    | ok holds =>
      simp only [verdict] at same
      cases holds with
      | true => simpa only [renderBranches, same] using taken
      | false => simpa only [renderBranches, same] using passed
    | error fault =>
      simp only [verdict] at same
      simpa only [renderBranches, same] using passed.after [.condition condition fault]

end

end Rendering

end Woven

/-- A template that includes nothing and uses a name only to insert its value has texts around
the insertions that stay the same for every value. So do the warnings, apart from the one that
the header of the result may give. There is no such document if the rendering is aborted, and then
it is for every value, at a call that cannot be written. -/
theorem renderText_inserts (limit : Nat) {text : String} {nodes : List Node}
    (parsed : parse text = .ok nodes) (nothing : IncludeNothing (Node.flattenAll nodes))
    (context : Context) {name : String}
    (barely : ∀ node ∈ Node.flattenAll nodes, node.UsesBarely name) :
    (∃ segments warnings, ∀ value, ∃ document,
      renderText limit text (context.insert name (.string value)) = some document ∧
      document.text = tidy (Text.joined value segments) ∧ document.isFallback = false ∧
        document.warnings =
          warnings ++ (Split.ofText document.text).fault.toList.map Warning.header) ∨
    ∀ value, renderText limit text (context.insert name (.string value)) = none ∧
      ReachesAbort (scopeBinding context name value) nodes := by
  have body : Woven fun value =>
      renderTree fetchNothing limit "" (context.insert name (.string value)) nodes :=
    renderBody_woven nodes ⟨nothing, barely⟩
  rcases body with ⟨pieces, warnings, known⟩ | aborted
  · refine .inl ⟨segmentsOf pieces, warnings, fun value => ?_⟩
    refine ⟨_, renderText_of_tree parsed (known value), ?_⟩
    rw [joined_segmentsOf]
    exact ⟨rfl, rfl, rfl⟩
  · refine .inr fun value => ?_
    have none := renderText_of_abort parsed (aborted value)
    obtain ⟨same, again, reaches⟩ := renderText_eq_none_iff.1 none
    obtain rfl := Except.ok.inj (parsed.symm.trans again)
    exact ⟨none, reaches⟩

/-- A text that inserts a name in a choice, and goes through a list that another name is bound
to. -/
def greeting : String :=
  "Dear " ++ tagText "who" ++ "," ++ tagText "#if formal" ++ tagText "who" ++ tagText "/if" ++
    tagText "#each guests" ++ tagText "this" ++ tagText "/each"

/-- The text inserts every value as it stands. -/
theorem greeting_inserts : ∃ segments warnings, ∀ value, ∃ document,
    renderText 8 greeting (Context.empty.insert "who" (.string value)) = some document ∧
    document.text = tidy (Text.joined value segments) ∧ document.isFallback = false ∧
      document.warnings =
        warnings ++ (Split.ofText document.text).fault.toList.map Warning.header := by
  have checked : (parse greeting).toOption.any (fun nodes =>
      (Node.flattenAll nodes).all fun node =>
        (inclusion? node).isNone && decide (node.UsesBarely "who")) = true := by
    decide +kernel
  have shown : (renderText 8 greeting (Context.empty.insert "who" (.string ""))).isSome = true := by
    decide +kernel
  cases parsed : parse greeting with
  | error error =>
    rw [parsed] at checked
    cases checked
  | ok nodes =>
    rw [parsed] at checked
    simp only [Except.toOption, Option.any_some, List.all_eq_true, Bool.and_eq_true,
      decide_eq_true_eq] at checked
    have nothing : IncludeNothing (Node.flattenAll nodes) := by
      intro included line member
      have none := (checked _ member).1
      cases none
    have unmentioned := fun node member => (checked node member).2
    rcases renderText_inserts 8 parsed nothing .empty unmentioned with inserted | aborted
    · exact inserted
    · rw [(aborted "").1] at shown
      cases shown

/-- A value that looks like a tag is not read as one. -/
example : (renderText 8 greeting
    (Context.empty.insert "who" (.string (tagText "guests")))).map Document.text =
      some ("Dear " ++ tagText "guests" ++ ",") := by
  decide +kernel

end NoteTemplate.Template
