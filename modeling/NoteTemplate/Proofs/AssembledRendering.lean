import NoteTemplate.Proofs.LookedUpPaths
import NoteTemplate.Proofs.UnwritablePatterns

/-!
# How a rendering puts fragments together

A rendering makes fragments out of the nodes that hold no others, unless one of them aborts it, and
puts fragments together in three ways: one behind another, all iterations over a list, and behind
the warning for a condition. So a relation between two renderings that is kept in these ways
(`Assembles`) holds of the renderings of a tree as soon as it holds of the insertions of the
templates that the tree names (`renderBody_assembled`). The two may run over different states and in
scopes that differ in names which the tree does not look up.
-/

namespace NoteTemplate.Template

namespace Node

variable {node : Node} {rest body : List Node} {condition : String}
  {branches : List (String × List Node)}

/-- A visit of a node meets the node itself. -/
theorem mem_flatten (node : Node) : node ∈ node.flatten := by
  cases node with
  | choice branches last => cases last <;> simp [flatten]
  | _ => simp [flatten]

/-- A visit of a body meets what a visit of its first node meets. -/
theorem flatten_subset_flattenAll : node.flatten ⊆ flattenAll (node :: rest) := by
  simp [flattenAll]

/-- A visit of a body meets what a visit of its other nodes meets. -/
theorem flattenAll_subset_cons : flattenAll rest ⊆ flattenAll (node :: rest) := by
  simp [flattenAll]

/-- A visit of branches meets what a visit of the first body meets. -/
theorem flattenAll_subset_flattenBranches :
    flattenAll body ⊆ flattenBranches ((condition, body) :: branches) := by
  simp [flattenBranches]

/-- A visit of branches meets what a visit of the other branches meets. -/
theorem flattenBranches_subset_cons :
    flattenBranches branches ⊆ flattenBranches ((condition, body) :: branches) := by
  simp [flattenBranches]

/-- A visit of a choice meets what a visit of its branches meets. -/
theorem flattenBranches_subset_flatten {last : Option (List Node)} :
    flattenBranches branches ⊆ (choice branches last).flatten := by
  cases last <;> simp [flatten]

/-- A visit of a choice meets what a visit of its last body meets. -/
theorem last_subset_flatten : flattenAll body ⊆ (choice branches (some body)).flatten := by
  simp [flatten]

/-- A visit of an iteration meets what a visit of its body meets. -/
theorem each_subset_flatten {path : String} : flattenAll body ⊆ (each path body).flatten := by
  simp [flatten]

/-- A visit of a named block meets what a visit of its body meets. -/
theorem block_subset_flatten {name : String} : flattenAll body ⊆ (block name body).flatten := by
  simp [flatten]

/-- The words of the conditions of a choice are looked up by the choice. -/
theorem mem_paths_choice {branch : String × List Node} {last : Option (List Node)} {path : String}
    (member : branch ∈ branches) (word : path ∈ conditionPaths branch.1) :
    path ∈ (choice branches last).paths :=
  List.mem_flatMap.2 ⟨branch, member, word⟩

end Node

/-- No node looks up a path that starts with one of some names. -/
def Untouched (changed : List String) (nodes : List Node) : Prop :=
  ∀ node ∈ nodes, ∀ path ∈ node.paths, firstSegment path ∉ changed

/-- Nodes touch none of no names. -/
theorem untouched_nil (nodes : List Node) : Untouched [] nodes :=
  fun _ _ _ _ => List.not_mem_nil

/-- A part of nodes touches no other names. -/
theorem Untouched.of_subset {changed : List String} {part nodes : List Node}
    (untouched : Untouched changed nodes) (subset : part ⊆ nodes) : Untouched changed part :=
  fun node member => untouched node (subset member)

/-- Some nodes abort a rendering only where that is permitted. -/
def AbortsPermitted (permitted : Failure → Prop) (nodes : List Node) : Prop :=
  ∀ node ∈ nodes, node.MayAbort → permitted .aborted

/-- The nodes that render to a fragment by themselves render to a known one, in every scope, or
abort the rendering where that is permitted. -/
structure RenderKnown (known : Fragment → Prop) (permitted : Failure → Prop) (nodes : List Node) :
    Prop where
  /-- Their fragments are known. -/
  fragment : ∀ node ∈ nodes, ∀ scope fragment,
    node.leaf? scope = some (.ok fragment) → known fragment
  /-- They abort the rendering only where that is permitted. -/
  aborts : AbortsPermitted permitted nodes

/-- A part of such nodes is alike. -/
theorem RenderKnown.of_subset {known : Fragment → Prop} {permitted : Failure → Prop}
    {part nodes : List Node} (leaves : RenderKnown known permitted nodes) (subset : part ⊆ nodes) :
    RenderKnown known permitted part :=
  ⟨fun node member => leaves.fragment node (subset member),
    fun node member => leaves.aborts node (subset member)⟩

/-- A relation between two renderings, over two states. -/
abbrev RenderingRelation (σ τ : Type) := Attempt σ Fragment → Attempt τ Fragment → Prop

/-- A relation that holds between equal fragments of a known kind and between permitted failures,
and is kept by the ways in which a rendering puts fragments together. -/
structure Assembles {σ τ : Type} (known : Fragment → Prop) (permitted : Failure → Prop)
    (related : RenderingRelation σ τ) : Prop where
  /-- No output is of the known kind. -/
  empty : known .empty
  /-- Equal fragments of the known kind are related. -/
  fragment : ∀ fragment, known fragment → related (pure fragment) (pure fragment)
  /-- Equal failures that are permitted are related. -/
  failure : ∀ failure, permitted failure → related (throw failure) (throw failure)
  /-- Fragments one behind another are related. -/
  append : ∀ {first later : Attempt σ Fragment} {twin twinLater : Attempt τ Fragment},
    related first twin → related later twinLater →
    related (do let fragment ← first; let rest ← later; return fragment.append rest)
      (do let fragment ← twin; let rest ← twinLater; return fragment.append rest)
  /-- Fragments behind the warning for a condition are related. -/
  condition : ∀ {first : Attempt σ Fragment} {twin : Attempt τ Fragment} (condition : String)
    (fault : ConditionFault), related first twin →
    related (do let fragment ← first; return fragment.after [.condition condition fault])
      (do let fragment ← twin; return fragment.after [.condition condition fault])
  /-- Iterations over the same items are related. -/
  iterations : ∀ {render : Value → Nat → Attempt σ Fragment}
    {twinRender : Value → Nat → Attempt τ Fragment},
    (∀ item index, related (render item index) (twinRender item index)) → ∀ items,
    related (do return joinIterations (← renderItems render 0 items))
      (do return joinIterations (← renderItems twinRender 0 items))

section Relations

variable {σ τ : Type} {known : Fragment → Prop} {permitted : Failure → Prop}
  {related : RenderingRelation σ τ} {changed : List String}
  {insert : Scope → String → Attempt σ Fragment} {twin : Scope → String → Attempt τ Fragment}

/-- The insertions of every template that some nodes name are related, in scopes that agree. -/
def InsertionsRelated (related : RenderingRelation σ τ) (changed : List String)
    (insert : Scope → String → Attempt σ Fragment) (twin : Scope → String → Attempt τ Fragment)
    (nodes : List Node) : Prop :=
  ∀ name line, Node.inclusion name line ∈ nodes → ∀ scope other : Scope,
    scope.AgreeOff changed other → related (insert scope name) (twin other name)

/-- The insertions of a part of nodes are related. -/
theorem InsertionsRelated.of_subset {part nodes : List Node}
    (insertions : InsertionsRelated related changed insert twin nodes) (subset : part ⊆ nodes) :
    InsertionsRelated related changed insert twin part :=
  fun name line member => insertions name line (subset member)

mutual

/-- Two renderings of a node are related when its insertions are. -/
theorem renderNode_assembled (assembles : Assembles known permitted related) :
    ∀ node : Node, Untouched changed node.flatten → RenderKnown known permitted node.flatten →
      InsertionsRelated related changed insert twin node.flatten →
      ∀ scope other : Scope, scope.AgreeOff changed other →
        related (renderNode insert scope node) (renderNode twin other node)
  | .text text, _, leaves, _, scope, _, _ =>
    assembles.fragment _ (leaves.fragment (.text text) (Node.mem_flatten _) scope _ rfl)
  | .variable path, untouched, leaves, _, scope, other, agree => by
    have same := agree.lookup_eq (untouched _ (Node.mem_flatten _) path List.mem_cons_self)
    have shown := leaves.fragment (.variable path) (Node.mem_flatten _) scope _ rfl
    simp only [renderVariable, same] at shown
    simp only [renderNode, renderVariable, same]
    exact assembles.fragment _ shown
  | .call name source line, untouched, leaves, _, scope, other, agree => by
    have same : call scope.lookup name source = call other.lookup name source :=
      call_congr fun path member =>
        agree.lookup_eq (untouched (.call name source line) (Node.mem_flatten _) path member)
    have rendered : renderCall scope name source = renderCall other name source := by
      simp only [renderCall, same]
    simp only [renderNode, ← rendered]
    cases outcome : renderCall scope name source with
    | ok fragment =>
      exact assembles.fragment _ (leaves.fragment (.call name source line) (Node.mem_flatten _)
        scope _ (congrArg some outcome))
    | error failure =>
      have fails : (Node.call name source line).leaf? scope = some (.error failure) :=
        congrArg some outcome
      obtain ⟨rfl, aborts⟩ := Node.leaf?_error fails
      exact assembles.failure _ (leaves.aborts _ (Node.mem_flatten _) aborts)
  | .choice branches none, untouched, leaves, insertions, scope, other, agree =>
    renderBranches_assembled assembles branches
      (fun _ member path word => untouched _ (Node.mem_flatten _) path
        (Node.mem_paths_choice member word))
      (untouched.of_subset Node.flattenBranches_subset_flatten)
      (leaves.of_subset Node.flattenBranches_subset_flatten)
      (insertions.of_subset Node.flattenBranches_subset_flatten) scope other agree
      (assembles.fragment _ assembles.empty)
  | .choice branches (some body), untouched, leaves, insertions, scope, other, agree => by
    have last := renderBody_assembled assembles body
      (untouched.of_subset Node.last_subset_flatten) (leaves.of_subset Node.last_subset_flatten)
      (insertions.of_subset Node.last_subset_flatten) scope other agree
    exact renderBranches_assembled assembles branches
      (fun _ member path word => untouched _ (Node.mem_flatten _) path
        (Node.mem_paths_choice member word))
      (untouched.of_subset Node.flattenBranches_subset_flatten)
      (leaves.of_subset Node.flattenBranches_subset_flatten)
      (insertions.of_subset Node.flattenBranches_subset_flatten) scope other agree last
  | .each path body, untouched, leaves, insertions, scope, other, agree => by
    have same := agree.lookup_eq (untouched _ (Node.mem_flatten _) path List.mem_cons_self)
    simp only [renderNode, same]
    -- Both go through one list, since the path is not one of those that may differ.
    split
    · rename_i items _
      exact assembles.iterations (fun item index =>
        renderBody_assembled assembles body (untouched.of_subset Node.each_subset_flatten)
          (leaves.of_subset Node.each_subset_flatten)
          (insertions.of_subset Node.each_subset_flatten) _ _ (agree.enter item index)) items
    · exact assembles.fragment _ assembles.empty
  | .block _ body, untouched, leaves, insertions, scope, other, agree =>
    renderBody_assembled assembles body (untouched.of_subset Node.block_subset_flatten)
      (leaves.of_subset Node.block_subset_flatten)
      (insertions.of_subset Node.block_subset_flatten) scope other agree
  | .inclusion name line, _, _, insertions, scope, other, agree =>
    insertions name line (Node.mem_flatten _) scope other agree
  | .parent _, _, _, _, _, _, _ => assembles.fragment _ assembles.empty
  | .unknown tag line, _, leaves, _, scope, _, _ =>
    assembles.fragment _ (leaves.fragment (.unknown tag line) (Node.mem_flatten _) scope _ rfl)

/-- Two renderings of a body are related when its insertions are. -/
theorem renderBody_assembled (assembles : Assembles known permitted related) :
    ∀ nodes : List Node, Untouched changed (Node.flattenAll nodes) →
      RenderKnown known permitted (Node.flattenAll nodes) →
      InsertionsRelated related changed insert twin (Node.flattenAll nodes) →
      ∀ scope other : Scope, scope.AgreeOff changed other →
        related (renderBody insert scope nodes) (renderBody twin other nodes)
  | [], _, _, _, _, _, _ => assembles.fragment _ assembles.empty
  | node :: rest, untouched, leaves, insertions, scope, other, agree => by
    have first := renderNode_assembled assembles node
      (untouched.of_subset Node.flatten_subset_flattenAll)
      (leaves.of_subset Node.flatten_subset_flattenAll)
      (insertions.of_subset Node.flatten_subset_flattenAll) scope other agree
    have others := renderBody_assembled assembles rest
      (untouched.of_subset Node.flattenAll_subset_cons)
      (leaves.of_subset Node.flattenAll_subset_cons)
      (insertions.of_subset Node.flattenAll_subset_cons) scope other agree
    exact assembles.append first others

/-- Two choices between the same branches are related when the insertions are, and what happens
when none is taken. -/
theorem renderBranches_assembled (assembles : Assembles known permitted related) :
    ∀ branches : List (String × List Node),
      (∀ branch ∈ branches, ∀ path ∈ conditionPaths branch.1, firstSegment path ∉ changed) →
      Untouched changed (Node.flattenBranches branches) →
      RenderKnown known permitted (Node.flattenBranches branches) →
      InsertionsRelated related changed insert twin (Node.flattenBranches branches) →
      ∀ scope other : Scope, scope.AgreeOff changed other →
      ∀ {otherwise : Attempt σ Fragment} {twinOtherwise : Attempt τ Fragment},
        related otherwise twinOtherwise →
        related (renderBranches insert scope otherwise branches)
          (renderBranches twin other twinOtherwise branches)
  | [], _, _, _, _, _, _, _, _, _, last => last
  | (condition, body) :: rest, words, untouched, leaves, insertions, scope, other, agree, _, _,
      last => by
    have same : judge scope.lookup condition = judge other.lookup condition :=
      judge_congr fun path word =>
        agree.lookup_eq (words (condition, body) List.mem_cons_self path word)
    have taken := renderBody_assembled assembles body
      (untouched.of_subset Node.flattenAll_subset_flattenBranches)
      (leaves.of_subset Node.flattenAll_subset_flattenBranches)
      (insertions.of_subset Node.flattenAll_subset_flattenBranches) scope other agree
    have passed := renderBranches_assembled assembles rest
      (fun branch member => words branch (List.mem_cons_of_mem _ member))
      (untouched.of_subset Node.flattenBranches_subset_cons)
      (leaves.of_subset Node.flattenBranches_subset_cons)
      (insertions.of_subset Node.flattenBranches_subset_cons) scope other agree last
    simp only [renderBranches, same]
    split
    · exact taken
    · exact passed
    · exact assembles.condition condition _ passed

end

end Relations

end NoteTemplate.Template
