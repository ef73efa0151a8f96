import NoteTemplate.Proofs.CleanValidation
import NoteTemplate.Proofs.HeaderLines
import NoteTemplate.Proofs.ReachedAborts

/-!
# Rendering a text alone

Where no templates are stored, an include finds nothing and says so, at every depth that is
allowed. The one thing that keeps a text from having a document is a date that cannot be written,
and then its rendering is aborted. Else a text is shown as it stands exactly when it is no template,
and then the fault of the parser is among the warnings (`renderText_outcome`).
-/

namespace NoteTemplate

open Template.Attempt

namespace Template

/-- A warning is about something else than a text that is no template. -/
def Warning.IsForeign (warning : Warning) : Prop :=
  ∀ message line, warning ≠ .malformed message line

/-- A faulty call does not warn of a text that is no template. -/
theorem Warning.isForeign_ofCall? {name : String} {fault : CallFault} {warning : Warning}
    (warns : Warning.ofCall? name fault = some warning) : warning.IsForeign := by
  intro message line same
  subst same
  cases fault <;> cases warns

/-- No node by itself warns of a text that is no template. -/
theorem renderKnown_foreign (nodes : List Node) :
    RenderKnown (Fragment.Confined Warning.IsForeign) (· = .aborted) nodes := by
  refine ⟨fun node _ scope fragment shown => ?_, fun _ _ _ => rfl⟩
  have single : ∀ warning : Warning, warning.IsForeign →
      (Fragment.ofWarning warning).Confined Warning.IsForeign := by
    intro warning foreign other member _
    obtain rfl := List.mem_singleton.1 member
    exact foreign
  cases node with
  | text _ =>
    cases shown
    exact Fragment.confined_of_nil rfl
  | «variable» _ =>
    cases shown
    unfold renderVariable
    split <;> exact Fragment.confined_of_nil rfl
  | call name source _ =>
    have rendered : renderCall scope name source = .ok fragment := Option.some.inj shown
    unfold renderCall at rendered
    cases outcome : call scope.lookup name source with
    | ok text =>
      rw [outcome] at rendered
      cases rendered
      exact Fragment.confined_of_nil rfl
    | error fault =>
      simp only [outcome] at rendered
      cases warns : Warning.ofCall? name fault with
      | none =>
        rw [warns] at rendered
        cases rendered
      | some warning =>
        rw [warns] at rendered
        cases rendered
        exact single _ (Warning.isForeign_ofCall? warns)
  | parent _ =>
    cases shown
    exact Fragment.confined_of_nil rfl
  | unknown tag _ =>
    cases shown
    refine single _ ?_
    intro message line same
    cases same
  | choice | each | block | inclusion => cases shown

/-- Where no templates are stored, the tree of a text without a name renders without a warning of a
text that is no template. -/
theorem renderTree_fetchNothing_confined {limit : Nat} {context : Context} {nodes : List Node}
    {fragment : Fragment}
    (tree : renderTree fetchNothing limit "" context nodes = pure fragment) :
    fragment.Confined Warning.IsForeign := by
  have missing : ∀ (scope : Scope) (name : String), YieldsConfined (fun _ => True)
      Warning.IsForeign (insertInto fetchNothing limit (limit + 1) [] scope name) := by
    intro scope name
    rw [insertInto_fetchNothing]
    refine yields_pure fun warning member _ => ?_
    obtain rfl := List.mem_singleton.1 member
    exact nofun
  have yields : YieldsConfined (fun _ => True) Warning.IsForeign
      (renderTree fetchNothing limit "" context nodes) :=
    renderBody_confined_of_known (renderKnown_foreign _)
      (fun name _ _ scope => missing scope name) _
  rw [tree] at yields
  rcases yields with ⟨shown, answers, confined⟩ | aborted
  · obtain rfl := Except.ok.inj (answers () trivial).1
    exact confined
  · cases (aborted () trivial).1

end Template

/-- Rendering a text where no templates are stored gives a document, unless it comes to a date that
cannot be written, and then it is aborted. The text is shown as it stands exactly when it is no
template, and then the warnings tell what the parser met and where; when it is one, there is no such
warning. The text of the document is a header block, which is empty only if no complete header
stands at its front, with the body behind it. -/
theorem renderText_outcome (limit : Nat) (text : String) (context : Context) :
    (renderText limit text context = none ↔
      ∃ nodes, Template.parse text = .ok nodes ∧ Template.ReachesAbort ⟨context, []⟩ nodes) ∧
    ∀ document, renderText limit text context = some document →
      (document.isFallback = true ↔ ∃ error, Template.parse text = .error error) ∧
      (∀ error, Template.parse text = .error error →
        document.text = text ∧ .malformed error.message error.line ∈ document.warnings) ∧
      (document.isFallback = false →
        ∀ message line, .malformed message line ∉ document.warnings) ∧
      ∃ block, HeaderBlock block ∧
        document.text = String.ofList block.flatten ++ document.body ∧
        Text.lines document.text.toList = block ++ Text.lines document.body.toList ∧
        (block = [] → headerBlock? document.text.toList = none) := by
  refine ⟨Template.renderText_eq_none_iff, fun document answer => ?_⟩
  cases parsed : Template.parse text with
  | error error =>
    obtain rfl := Option.some.inj ((Template.renderText_of_error parsed).symm.trans answer)
    refine ⟨⟨fun _ => ⟨error, rfl⟩, fun _ => rfl⟩, fun other same => ?_, fun other => ?_,
      Split.ofText_cut text⟩
    · obtain rfl := Except.error.inj same
      exact ⟨rfl, List.mem_append_left _ List.mem_cons_self⟩
    · cases other
  | ok nodes =>
    rcases Template.renderTree_fetchNothing_abortsExactly limit context nodes with
      ⟨-, tree⟩ | ⟨-, fragment, tree⟩
    · cases (Template.renderText_of_abort parsed tree).symm.trans answer
    · have confined := Template.renderTree_fetchNothing_confined tree
      obtain rfl := Option.some.inj ((Template.renderText_of_tree parsed tree).symm.trans answer)
      refine ⟨⟨fun fallen => ?_, fun failed => ?_⟩, fun error failed => ?_,
        fun _ message line member => ?_, Split.ofText_cut _⟩
      · cases fallen
      · obtain ⟨error, failed⟩ := failed
        cases failed
      · cases failed
      · rcases List.mem_append.1 member with rendered | header
        · exact confined _ rendered rfl message line rfl
        · obtain ⟨fault, -, same⟩ := List.mem_map.1 header
          cases same

/-- A moment is written by one form of its offset, and by the other the rendering is aborted. -/
example :
    let shown := fun pattern =>
      (renderText 8 (Template.tagText ("date_format(day, \"" ++ pattern ++ "\")"))
        (Context.empty.insert "day" (.moment .epoch))).map Document.text
    shown "%:z" = some "+00:00" ∧ shown "%#z" = none := by
  decide +kernel

end NoteTemplate
