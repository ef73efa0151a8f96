import NoteTemplate.Document
import NoteTemplate.Proofs.AssembledRendering

/-!
# Where a rendering is aborted

A rendering goes into the body of the first branch whose condition holds, into the body of an
iteration once for every item, in the scope of the item, and into every block. Where no include can
fail, it is aborted exactly when it comes to a call there that cannot be written (`ReachesAbort`,
`renderBody_abortsExactly`), and else it has a fragment.
-/

namespace NoteTemplate.Template

/-- The body that a choice takes in a scope: that of the first branch whose condition holds, and the
last one if there is none. -/
inductive Takes (scope : Scope) (last : Option (List Node)) :
    List (String × List Node) → List Node → Prop where
  /-- The condition of the first branch holds. -/
  | first {condition : String} {body : List Node} {rest : List (String × List Node)}
      (holds : judge scope.lookup condition = .ok true) :
      Takes scope last ((condition, body) :: rest) body
  /-- The condition of the first branch does not hold, or has no outcome. -/
  | later {condition : String} {other body : List Node} {rest : List (String × List Node)}
      (fails : judge scope.lookup condition ≠ .ok true) (taken : Takes scope last rest body) :
      Takes scope last ((condition, other) :: rest) body
  /-- There are no branches. -/
  | last {body : List Node} (ends : last = some body) : Takes scope last [] body

/-- The rendering of some nodes in a scope comes to a call that cannot be written. -/
inductive ReachesAbort : Scope → List Node → Prop where
  /-- The first node is such a call. -/
  | call {scope : Scope} {name source : String} {line : Nat} {rest : List Node}
      (unwritable : Template.call scope.lookup name source = .error .unwritable) :
      ReachesAbort scope (.call name source line :: rest)
  /-- The body that a choice takes comes to one. -/
  | choice {scope : Scope} {branches : List (String × List Node)} {last : Option (List Node)}
      {body rest : List Node} (takes : Takes scope last branches body)
      (inner : ReachesAbort scope body) : ReachesAbort scope (.choice branches last :: rest)
  /-- The body of an iteration comes to one for some item. -/
  | each {scope : Scope} {path : String} {items : List Value} {index : Nat} {item : Value}
      {body rest : List Node} (found : scope.lookup path = some (.list items))
      (here : items[index]? = some item) (inner : ReachesAbort (scope.enter item index) body) :
      ReachesAbort scope (.each path body :: rest)
  /-- The body of a block comes to one. -/
  | block {scope : Scope} {name : String} {body rest : List Node}
      (inner : ReachesAbort scope body) : ReachesAbort scope (.block name body :: rest)
  /-- A later node comes to one. -/
  | behind {scope : Scope} {node : Node} {rest : List Node} (later : ReachesAbort scope rest) :
      ReachesAbort scope (node :: rest)

section Reaching

variable {scope : Scope} {node : Node} {rest : List Node}

/-- No nodes come to an abort. -/
theorem not_reachesAbort_nil : ¬ ReachesAbort scope [] := nofun

/-- Nodes come to an abort exactly when the first or the others do. -/
theorem reachesAbort_cons_iff :
    ReachesAbort scope (node :: rest) ↔ ReachesAbort scope [node] ∨ ReachesAbort scope rest := by
  constructor
  · intro reaches
    cases reaches with
    | call unwritable => exact .inl (.call unwritable)
    | choice takes inner => exact .inl (.choice takes inner)
    | each found here inner => exact .inl (.each found here inner)
    | block inner => exact .inl (.block inner)
    | behind later => exact .inr later
  · rintro (first | later)
    · cases first with
      | call unwritable => exact .call unwritable
      | choice takes inner => exact .choice takes inner
      | each found here inner => exact .each found here inner
      | block inner => exact .block inner
      | behind later => exact (not_reachesAbort_nil later).elim
    · exact .behind later

/-- A choice comes to an abort exactly when the body that it takes does. -/
theorem reachesAbort_choice_iff {branches : List (String × List Node)}
    {last : Option (List Node)} :
    ReachesAbort scope [.choice branches last] ↔
      ∃ body, Takes scope last branches body ∧ ReachesAbort scope body := by
  constructor
  · rintro (_ | ⟨takes, inner⟩ | _ | _ | later)
    · exact ⟨_, takes, inner⟩
    · exact (not_reachesAbort_nil later).elim
  · rintro ⟨body, takes, inner⟩
    exact .choice takes inner

/-- An iteration comes to an abort exactly when its body does for one of the items. -/
theorem reachesAbort_each_iff {path : String} {body : List Node} {items : List Value}
    (found : scope.lookup path = some (.list items)) :
    ReachesAbort scope [.each path body] ↔ ∃ index item, items[index]? = some item ∧
      ReachesAbort (scope.enter item index) body := by
  constructor
  · rintro (_ | _ | ⟨again, here, inner⟩ | _ | later)
    · cases found.symm.trans again
      exact ⟨_, _, here, inner⟩
    · exact (not_reachesAbort_nil later).elim
  · rintro ⟨index, item, here, inner⟩
    exact .each found here inner

/-- A choice whose first condition holds comes to an abort exactly when the first body does. -/
theorem takes_reaches_iff_of_true {condition : String} {body : List Node}
    {branches : List (String × List Node)} {last : Option (List Node)}
    (holds : judge scope.lookup condition = .ok true) :
    (∃ taken, Takes scope last ((condition, body) :: branches) taken ∧ ReachesAbort scope taken) ↔
      ReachesAbort scope body := by
  constructor
  · rintro ⟨taken, takes, reaches⟩
    cases takes with
    | first _ => exact reaches
    | later fails _ => exact absurd holds fails
  · exact fun reaches => ⟨body, .first holds, reaches⟩

/-- Any other choice comes to an abort exactly when it does without its first branch. -/
theorem takes_reaches_iff_of_not {condition : String} {body : List Node}
    {branches : List (String × List Node)} {last : Option (List Node)}
    (fails : judge scope.lookup condition ≠ .ok true) :
    (∃ taken, Takes scope last ((condition, body) :: branches) taken ∧ ReachesAbort scope taken) ↔
      ∃ taken, Takes scope last branches taken ∧ ReachesAbort scope taken := by
  constructor
  · rintro ⟨taken, takes, reaches⟩
    cases takes with
    | first holds => exact absurd holds fails
    | later _ takes => exact ⟨taken, takes, reaches⟩
  · rintro ⟨taken, takes, reaches⟩
    exact ⟨taken, .later fails takes, reaches⟩

end Reaching

section Aborting

variable {σ α β : Type} {condition other : Prop}

/-- A computation is aborted under a condition, and otherwise has a known result. -/
def AbortsExactly (condition : Prop) (attempt : Attempt σ α) : Prop :=
  (condition ∧ attempt = throw .aborted) ∨ (¬ condition ∧ ∃ result, attempt = pure result)

/-- A known result is never aborted. -/
theorem abortsExactly_pure (never : ¬ condition) (result : α) :
    AbortsExactly condition (pure result : Attempt σ α) :=
  .inr ⟨never, result, rfl⟩

/-- The condition can be said in other words. -/
theorem AbortsExactly.congr {attempt : Attempt σ α} (exactly : AbortsExactly condition attempt)
    (same : other ↔ condition) : AbortsExactly other attempt := by
  unfold AbortsExactly
  rwa [same]

/-- A sequence is aborted when its first part is, or else its second part behind the result. -/
theorem AbortsExactly.bind {attempt : Attempt σ α} {next : α → Attempt σ β}
    (first : AbortsExactly condition attempt)
    (later : ∀ result, AbortsExactly other (next result)) :
    AbortsExactly (condition ∨ other) (attempt >>= next) := by
  rcases first with ⟨holds, rfl⟩ | ⟨fails, result, rfl⟩
  · exact .inl ⟨.inl holds, rfl⟩
  · rw [pure_bind]
    exact (later result).congr (or_iff_right fails)

/-- A function of the result changes nothing. -/
theorem AbortsExactly.map {attempt : Attempt σ α} (exactly : AbortsExactly condition attempt)
    (change : α → β) : AbortsExactly condition (do return change (← attempt)) :=
  (exactly.bind fun _ => abortsExactly_pure not_false _).congr (or_false condition).symm.to_iff

/-- Iterations are aborted when one of them is. -/
theorem renderItems_abortsExactly {render : Value → Nat → Attempt σ Fragment}
    {reaches : Value → Nat → Prop}
    (each : ∀ item index, AbortsExactly (reaches item index) (render item index))
    (items : List Value) :
    ∀ start, AbortsExactly
      (∃ index item, items[index]? = some item ∧ reaches item (start + index))
      (renderItems render start items) := by
  induction items with
  | nil =>
    intro start
    exact abortsExactly_pure (by simp) _
  | cons item rest ih =>
    intro start
    refine ((each item start).bind fun first => (ih (start + 1)).map (first :: ·)).congr ?_
    constructor
    · rintro ⟨index, found, here, reached⟩
      cases index with
      | zero =>
        obtain rfl := Option.some.inj here
        exact .inl reached
      | succ index =>
        exact .inr ⟨index, found, here, by rwa [Nat.add_right_comm, Nat.add_assoc]⟩
    · rintro (reached | ⟨index, found, here, reached⟩)
      · exact ⟨0, item, rfl, reached⟩
      · exact ⟨index + 1, found, here, by rwa [Nat.add_right_comm, Nat.add_assoc] at reached⟩

variable {insert : Scope → String → Attempt σ Fragment}

mutual

/-- A node is aborted exactly where it comes to an abort. -/
theorem renderNode_abortsExactly
    (included : ∀ scope name, ∃ fragment, insert scope name = pure fragment) :
    ∀ (node : Node) (scope : Scope),
      AbortsExactly (ReachesAbort scope [node]) (renderNode insert scope node)
  | .text _, _ => abortsExactly_pure (by rintro ⟨⟩; contradiction) _
  | .variable _, _ => abortsExactly_pure (by rintro ⟨⟩; contradiction) _
  | .call name source line, scope => by
    have reaches : ReachesAbort scope [.call name source line] ↔
        call scope.lookup name source = .error .unwritable := by
      constructor
      · rintro (unwritable | _ | _ | _ | later)
        · exact unwritable
        · exact (not_reachesAbort_nil later).elim
      · exact .call
    refine AbortsExactly.congr ?_ reaches
    unfold renderNode
    cases outcome : renderCall scope name source with
    | ok fragment =>
      refine abortsExactly_pure (fun unwritable => ?_) _
      rw [renderCall_eq_error_iff.2 ⟨rfl, unwritable⟩] at outcome
      cases outcome
    | error failure =>
      obtain ⟨rfl, unwritable⟩ := renderCall_eq_error_iff.1 outcome
      exact .inl ⟨unwritable, rfl⟩
  | .choice branches none, scope => by
    have ends : AbortsExactly (∃ body, none = some body ∧ ReachesAbort scope body)
        (pure .empty : Attempt σ Fragment) := abortsExactly_pure (by simp) _
    exact (renderBranches_abortsExactly included branches scope ends).congr reachesAbort_choice_iff
  | .choice branches (some body), scope => by
    have ends := (renderBody_abortsExactly included body scope).congr
      (show (∃ other, some body = some other ∧ ReachesAbort scope other) ↔ _ by simp)
    exact (renderBranches_abortsExactly included branches scope ends).congr reachesAbort_choice_iff
  | .each path body, scope => by
    unfold renderNode
    split
    · rename_i items found
      have iterations := renderItems_abortsExactly
        (fun item index => renderBody_abortsExactly included body (scope.enter item index)) items 0
      simp only [Nat.zero_add] at iterations
      exact (iterations.map _).congr (reachesAbort_each_iff found)
    · rename_i noList
      refine abortsExactly_pure (fun reaches => ?_) _
      rcases reaches with _ | _ | ⟨found, _, _⟩ | _ | later
      · exact noList _ found
      · exact not_reachesAbort_nil later
  | .block _ body, scope => by
    refine (renderBody_abortsExactly included body scope).congr ⟨?_, .block⟩
    rintro (_ | _ | _ | inner | later)
    · exact inner
    · exact (not_reachesAbort_nil later).elim
  | .inclusion name _, scope => by
    obtain ⟨fragment, known⟩ := included scope name
    rw [renderNode, known]
    exact abortsExactly_pure (by rintro ⟨⟩; contradiction) _
  | .parent _, _ => abortsExactly_pure (by rintro ⟨⟩; contradiction) _
  | .unknown _ _, _ => abortsExactly_pure (by rintro ⟨⟩; contradiction) _

/-- A body is aborted exactly where it comes to an abort. -/
theorem renderBody_abortsExactly
    (included : ∀ scope name, ∃ fragment, insert scope name = pure fragment) :
    ∀ (nodes : List Node) (scope : Scope),
      AbortsExactly (ReachesAbort scope nodes) (renderBody insert scope nodes)
  | [], _ => abortsExactly_pure not_reachesAbort_nil _
  | node :: rest, scope =>
    ((renderNode_abortsExactly included node scope).bind fun fragment =>
      (renderBody_abortsExactly included rest scope).map fragment.append).congr
        reachesAbort_cons_iff

/-- A choice is aborted exactly when the body that it takes comes to an abort. -/
theorem renderBranches_abortsExactly
    (included : ∀ scope name, ∃ fragment, insert scope name = pure fragment) :
    ∀ (branches : List (String × List Node)) (scope : Scope) {last : Option (List Node)}
      {otherwise : Attempt σ Fragment},
      AbortsExactly (∃ body, last = some body ∧ ReachesAbort scope body) otherwise →
      AbortsExactly (∃ body, Takes scope last branches body ∧ ReachesAbort scope body)
        (renderBranches insert scope otherwise branches)
  | [], scope, last, _, ends => by
    refine ends.congr ⟨?_, fun ⟨body, same, reaches⟩ => ⟨body, .last same, reaches⟩⟩
    rintro ⟨body, takes, reaches⟩
    cases takes with
    | last same => exact ⟨body, same, reaches⟩
  | (condition, body) :: rest, scope, last, _, ends => by
    have taken := renderBody_abortsExactly included body scope
    have passed := renderBranches_abortsExactly included rest scope ends
    cases verdict : judge scope.lookup condition with
    | ok holds =>
      cases holds with
      | true =>
        simp only [renderBranches, verdict]
        exact taken.congr (takes_reaches_iff_of_true verdict)
      | false =>
        simp only [renderBranches, verdict]
        exact passed.congr (takes_reaches_iff_of_not (by simp [verdict]))
    | error fault =>
      simp only [renderBranches, verdict]
      exact (passed.map _).congr (takes_reaches_iff_of_not (by simp [verdict]))

end

end Aborting

/-! ## Texts that are not stored -/

/-- Where no templates are stored, an include of a text without a name is missing, whatever depth
is allowed. -/
theorem insertInto_fetchNothing (limit : Nat) (scope : Scope) (name : String) :
    insertInto fetchNothing limit (limit + 1) [] scope name =
      pure (Fragment.ofWarning (.missingInclusion name)) := by
  unfold insertInto
  rw [if_neg List.not_mem_nil]
  rfl

/-- Where no templates are stored, the tree of a text without a name is aborted exactly where it
comes to an abort. -/
theorem renderTree_fetchNothing_abortsExactly (limit : Nat) (context : Context)
    (nodes : List Node) :
    AbortsExactly (ReachesAbort ⟨context, []⟩ nodes)
      (renderTree fetchNothing limit "" context nodes) :=
  renderBody_abortsExactly
    (fun scope name => ⟨_, insertInto_fetchNothing limit scope name⟩) nodes ⟨context, []⟩

variable {limit : Nat} {text : String} {context : Context} {nodes : List Node}

/-- A text that is no template is shown as it stands. -/
theorem renderText_of_error {error : SyntaxError} (failed : parse text = .error error) :
    renderText limit text context =
      some (.ofText "" text [.malformed error.message error.line] true) := by
  simp only [renderText, renderAlone, renderCompiled, Compiled.ofText, failed, List.nil_append]
  rfl

/-- A text is shown as its tree renders. -/
theorem renderText_of_tree (parsed : parse text = .ok nodes) {fragment : Fragment}
    (tree : renderTree fetchNothing limit "" context nodes = pure fragment) :
    renderText limit text context =
      some (.ofText "" (tidy fragment.text) fragment.warnings false) := by
  simp only [renderText, renderAlone, renderCompiled, Compiled.ofText, parsed, tree, pure_bind,
    List.nil_append]
  rfl

/-- There is no document of a text whose tree is aborted. -/
theorem renderText_of_abort (parsed : parse text = .ok nodes)
    (tree : renderTree fetchNothing limit "" context nodes = throw .aborted) :
    renderText limit text context = none := by
  simp only [renderText, renderAlone, renderCompiled, Compiled.ofText, parsed, tree]
  rfl

/-- There is no document of a text exactly when its tree comes to an abort. -/
theorem renderText_eq_none_iff : renderText limit text context = none ↔
    ∃ nodes, parse text = .ok nodes ∧ ReachesAbort ⟨context, []⟩ nodes := by
  cases parsed : parse text with
  | error error => simp [renderText_of_error parsed]
  | ok nodes =>
    rcases renderTree_fetchNothing_abortsExactly limit context nodes with
      ⟨reaches, tree⟩ | ⟨never, fragment, tree⟩
    · simp [renderText_of_abort parsed tree, reaches]
    · simp [renderText_of_tree parsed tree, never]

end NoteTemplate.Template
