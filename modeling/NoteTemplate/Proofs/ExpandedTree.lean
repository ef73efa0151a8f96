import NoteTemplate.Proofs.AssembledRendering

/-!
# Trees with other nodes in place of includes

In a tree every include can be replaced by nodes, below all branches, iterations and blocks. To
render what comes out is to render the tree, where an include inserts the rendering of its
replacement in the scope it stands in (`renderBody_expandAll`). So an include within an iteration
sees the item and the index that its replacement does.
-/

namespace NoteTemplate.Template

namespace Node

mutual

/-- What a node becomes when includes are replaced. -/
def expand (inline : String → List Node) : Node → List Node
  | .choice branches none => [.choice (expandBranches inline branches) none]
  | .choice branches (some body) =>
    [.choice (expandBranches inline branches) (some (expandAll inline body))]
  | .each path body => [.each path (expandAll inline body)]
  | .block name body => [.block name (expandAll inline body)]
  | .inclusion name _ => inline name
  | node => [node]

/-- What a body becomes when includes are replaced. -/
def expandAll (inline : String → List Node) : List Node → List Node
  | [] => []
  | node :: rest => expand inline node ++ expandAll inline rest

/-- What branches become when includes are replaced. -/
def expandBranches (inline : String → List Node) :
    List (String × List Node) → List (String × List Node)
  | [] => []
  | (condition, body) :: rest => (condition, expandAll inline body) :: expandBranches inline rest

end

section Congruence

variable {inline twin : String → List Node}

/-- Two replacements agree on all includes that a visit meets. -/
def ReplacesAlike (inline twin : String → List Node) (nodes : List Node) : Prop :=
  ∀ name line, inclusion name line ∈ nodes → inline name = twin name

/-- Replacements agree on a part of what is visited. -/
theorem ReplacesAlike.of_subset {part nodes : List Node} (alike : ReplacesAlike inline twin nodes)
    (subset : part ⊆ nodes) : ReplacesAlike inline twin part :=
  fun name line member => alike name line (subset member)

mutual

/-- A node depends on what takes the place of its own includes. -/
theorem expand_congr : ∀ node : Node, ReplacesAlike inline twin node.flatten →
    expand inline node = expand twin node
  | .choice branches none, alike => by
    have same := expandBranches_congr branches (alike.of_subset flattenBranches_subset_flatten)
    rw [expand, expand, same]
  | .choice branches (some body), alike => by
    have same := expandBranches_congr branches (alike.of_subset flattenBranches_subset_flatten)
    have last := expandAll_congr body (alike.of_subset last_subset_flatten)
    rw [expand, expand, same, last]
  | .each path body, alike => by
    rw [expand, expand, expandAll_congr body (alike.of_subset each_subset_flatten)]
  | .block name body, alike => by
    rw [expand, expand, expandAll_congr body (alike.of_subset block_subset_flatten)]
  | .inclusion name line, alike => alike name line (mem_flatten _)
  | .text _, _ => rfl
  | .variable _, _ => rfl
  | .call .., _ => rfl
  | .parent _, _ => rfl
  | .unknown .., _ => rfl

/-- A body depends on what takes the place of its own includes. -/
theorem expandAll_congr : ∀ nodes : List Node, ReplacesAlike inline twin (flattenAll nodes) →
    expandAll inline nodes = expandAll twin nodes
  | [], _ => rfl
  | node :: rest, alike => by
    have first := expand_congr node (alike.of_subset flatten_subset_flattenAll)
    have others := expandAll_congr rest (alike.of_subset flattenAll_subset_cons)
    rw [expandAll, expandAll, first, others]

/-- Branches depend on what takes the place of their own includes. -/
theorem expandBranches_congr : ∀ branches : List (String × List Node),
    ReplacesAlike inline twin (flattenBranches branches) →
    expandBranches inline branches = expandBranches twin branches
  | [], _ => rfl
  | (condition, body) :: rest, alike => by
    have first := expandAll_congr body (alike.of_subset flattenAll_subset_flattenBranches)
    have others := expandBranches_congr rest (alike.of_subset flattenBranches_subset_cons)
    rw [expandBranches, expandBranches, first, others]

end

end Congruence

end Node

section Rendering

variable {σ : Type} {insert : Scope → String → Attempt σ Fragment} {inline : String → List Node}

/-- Inserts the rendering of what takes the place of an include. -/
def insertInline (insert : Scope → String → Attempt σ Fragment) (inline : String → List Node)
    (scope : Scope) (name : String) : Attempt σ Fragment :=
  renderBody insert scope (inline name)

mutual

/-- What a node becomes is rendered as the node with its includes inserted. -/
theorem renderBody_expand : ∀ (node : Node) (scope : Scope),
    renderBody insert scope (node.expand inline) =
      renderNode (insertInline insert inline) scope node
  | .choice branches none, scope => by
    rw [Node.expand, renderBody_singleton, renderNode, renderNode,
      renderBranches_expandBranches branches scope]
  | .choice branches (some body), scope => by
    rw [Node.expand, renderBody_singleton, renderNode, renderNode, renderBody_expandAll body scope,
      renderBranches_expandBranches branches scope]
  | .each path body, scope => by
    have bodies : (fun item index =>
        renderBody insert (scope.enter item index) (Node.expandAll inline body)) =
        fun item index =>
          renderBody (insertInline insert inline) (scope.enter item index) body := by
      funext item index
      exact renderBody_expandAll body (scope.enter item index)
    simp only [Node.expand, renderBody_singleton, renderNode, bodies]
  | .block name body, scope => by
    rw [Node.expand, renderBody_singleton, renderNode, renderNode, renderBody_expandAll body scope]
  | .inclusion name line, scope => by rw [Node.expand, renderNode, insertInline]
  | .text _, scope => renderBody_singleton scope _
  | .variable _, scope => renderBody_singleton scope _
  | .call .., scope => renderBody_singleton scope _
  | .parent _, scope => renderBody_singleton scope _
  | .unknown .., scope => renderBody_singleton scope _

/-- What a body becomes is rendered as the body with its includes inserted. -/
theorem renderBody_expandAll : ∀ (nodes : List Node) (scope : Scope),
    renderBody insert scope (Node.expandAll inline nodes) =
      renderBody (insertInline insert inline) scope nodes
  | [], _ => rfl
  | node :: rest, scope => by
    rw [Node.expandAll, renderBody_append, renderBody_expand node scope,
      renderBody_expandAll rest scope, renderBody]

/-- What branches become is rendered as the branches with their includes inserted. -/
theorem renderBranches_expandBranches :
    ∀ (branches : List (String × List Node)) (scope : Scope) {otherwise : Attempt σ Fragment},
      renderBranches insert scope otherwise (Node.expandBranches inline branches) =
        renderBranches (insertInline insert inline) scope otherwise branches
  | [], _, _ => rfl
  | (condition, body) :: rest, scope, _ => by
    rw [Node.expandBranches, renderBranches, renderBranches, renderBody_expandAll body scope,
      renderBranches_expandBranches rest scope]

end

end Rendering

end NoteTemplate.Template
