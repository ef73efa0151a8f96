import Mathlib.Data.List.Chain
import NoteTemplate.Proofs.Answer

/-!
# Joined iterations

An iteration renders its body once for every item of a list and puts the outputs one behind
another. Where two outputs have to be kept apart, a line feed is put between them. Two rules for
that are told apart here: whether the second output holds a line feed, and whether the text of the
body does. Since a line feed is put only where none stands, both rules lead to the same output
exactly when they agree about every two outputs that follow each other (`separated_eq_iff`).
-/

namespace NoteTemplate.Template

/-! ## The single iterations -/

section Iterations

variable {σ : Type}

/-- The items of a list are rendered in order, from a position and a state on, to fragments, and a
state is left. -/
inductive Iterates (render : Value → Nat → Attempt σ Fragment) :
    Nat → List Value → σ → List Fragment → σ → Prop where
  /-- No items render to no fragments. -/
  | nil {index : Nat} {state : σ} : Iterates render index [] state [] state
  /-- An item renders to the first fragment, and the others to those behind it. -/
  | cons {index : Nat} {item : Value} {rest : List Value} {state next after : σ}
      {fragment : Fragment} {fragments : List Fragment}
      (first : (render item index).run state = (.ok fragment, next))
      (others : Iterates render (index + 1) rest next fragments after) :
      Iterates render index (item :: rest) state (fragment :: fragments) after

variable {render : Value → Nat → Attempt σ Fragment} {index : Nat} {items : List Value}
  {state after : σ} {fragments : List Fragment}

/-- Rendering items succeeds when all iterations do. -/
theorem renderItems_run_iff :
    (renderItems render index items).run state = (.ok fragments, after) ↔
      Iterates render index items state fragments after := by
  induction items generalizing index state fragments with
  | nil =>
    constructor
    · rintro ⟨⟩
      exact .nil
    · rintro ⟨⟩
      rfl
  | cons item rest ih =>
    rw [renderItems, Attempt.run_bind]
    rcases ran : (render item index).run state with ⟨answer, next⟩
    cases answer with
    | error failure =>
      refine ⟨nofun, fun iterates => ?_⟩
      cases iterates with
      | cons first _ =>
        rw [ran] at first
        cases first
    | ok fragment =>
      dsimp only
      rw [Attempt.run_bind]
      rcases ranRest : (renderItems render (index + 1) rest).run next with ⟨answer, last⟩
      constructor
      · intro both
        cases answer with
        | error failure => cases both
        | ok others =>
          cases both
          exact .cons ran (ih.1 ranRest)
      · intro iterates
        cases iterates with
        | cons first others =>
          rw [ran] at first
          cases first
          rw [ih.2 others] at ranRest
          cases ranRest
          rfl

end Iterations

/-! ## Outputs kept apart -/

/-- Texts one behind another, with a line feed between two of them where a rule says so. -/
def separated (apart : String → String → Bool) : List String → String
  | [] => ""
  | [last] => last
  | first :: second :: rest =>
    first ++ (if apart first second then "\n" else "") ++ separated apart (second :: rest)

/-- A line feed between two texts would stand alone: the first does not end in one, and the second
does not start with one. -/
def isOpenSeam (first second : String) : Bool :=
  first.toList.getLast? ≠ some '\n' && second.toList.head? ≠ some '\n'

/-- The output decides: one that holds a line feed is kept apart from the output before it. -/
def apartByOutput (first second : String) : Bool :=
  '\n' ∈ second.toList && isOpenSeam first second

/-- A literal text with a line feed. -/
def isLineBreak : Node → Bool
  | .text text => '\n' ∈ text.toList
  | _ => false

/-- A body goes over several lines when a literal text in it holds a line feed. -/
def isMultiline (body : List Node) : Bool := (Node.flattenAll body).any isLineBreak

/-- The body decides: if it goes over several lines, outputs that are not empty are kept apart. -/
def apartByBody (body : List Node) (first second : String) : Bool :=
  isMultiline body && first ≠ "" && second ≠ "" && isOpenSeam first second

/-- The outputs of iterations, joined as the body says. -/
def joinedByBody (body : List Node) (chunks : List String) : String :=
  if isMultiline body then separated (apartByBody body) chunks else String.join chunks

section Separated

variable {apart other : String → String → Bool} {first second : String} {rest chunks : List String}

/-- Texts one behind another start with the first one. -/
theorem separated_starts (apart : String → String → Bool) (first : String) (rest : List String) :
    ∃ behind, separated apart (first :: rest) = first ++ behind := by
  cases rest with
  | nil => exact ⟨"", by simp [separated]⟩
  | cons second rest => exact ⟨_, String.append_assoc⟩

/-- Texts that are never kept apart are concatenated. -/
theorem separated_never (chunks : List String) :
    separated (fun _ _ => false) chunks = String.join chunks := by
  induction chunks with
  | nil => rfl
  | cons first rest ih =>
    cases rest with
    | nil => simp [separated]
    | cons second rest => simp [separated, ih, String.join_cons]

/-- The outputs of iterations are joined as they say themselves. -/
theorem joinChunks_some (chunks : List String) (first : String) :
    first ++ joinChunks (some first) chunks = separated apartByOutput (first :: chunks) := by
  induction chunks generalizing first with
  | nil => simp [joinChunks, separated]
  | cons second rest ih =>
    have same : separator (some first) second =
        if apartByOutput first second then "\n" else "" := by
      simp [separator, apartByOutput, isOpenSeam]
    rw [joinChunks, separated, ← ih, same]
    simp [String.append_assoc]

/-- The same without an output before. -/
theorem joinChunks_none (chunks : List String) :
    joinChunks none chunks = separated apartByOutput chunks := by
  cases chunks with
  | nil => rfl
  | cons first rest =>
    rw [← joinChunks_some, joinChunks]
    simp [separator]

/-- A rule asks for a line feed only where none follows: the second text is not empty and starts
with another character. -/
def NeedsFeed (apart : String → String → Bool) : Prop :=
  ∀ first second, apart first second = true →
    ∃ c more, second.toList = c :: more ∧ c ≠ '\n'

/-- Texts that start with one before which a line feed is needed have none in front. -/
theorem feed_ne_separated (needs : NeedsFeed apart) (asked : apart first second = true)
    (text : String) : "\n" ++ text ≠ separated other (second :: rest) := by
  intro same
  obtain ⟨c, more, starts, noFeed⟩ := needs first second asked
  obtain ⟨behind, whole⟩ := separated_starts other second rest
  have characters := congrArg String.toList (same.trans whole)
  rw [String.toList_append, String.toList_append, starts] at characters
  exact noFeed (List.cons.inj characters).1.symm

/-- Under two rules, texts come out the same exactly when the rules agree about the first two, and
the others come out the same. -/
theorem separated_cons_cons_eq_iff (needs : NeedsFeed apart) (needsOther : NeedsFeed other) :
    separated apart (first :: second :: rest) = separated other (first :: second :: rest) ↔
      apart first second = other first second ∧
        separated apart (second :: rest) = separated other (second :: rest) := by
  rw [separated, separated, String.append_assoc, String.append_assoc, String.append_right_inj]
  cases asked : apart first second with
  | true =>
    cases askedOther : other first second with
    | true => simp [String.append_right_inj]
    | false => simpa using feed_ne_separated needs asked _
  | false =>
    cases askedOther : other first second with
    | true => simpa using (feed_ne_separated needsOther askedOther _).symm
    | false => simp

/-- Under two rules, texts come out the same exactly when the rules agree about every two that
follow each other. -/
theorem separated_eq_iff (needs : NeedsFeed apart) (needsOther : NeedsFeed other)
    (chunks : List String) :
    separated apart chunks = separated other chunks ↔
      chunks.IsChain fun first second => apart first second = other first second := by
  induction chunks with
  | nil => exact ⟨fun _ => .nil, fun _ => rfl⟩
  | cons first rest ih =>
    cases rest with
    | nil => exact ⟨fun _ => .singleton _, fun _ => rfl⟩
    | cons second rest =>
      rw [separated_cons_cons_eq_iff needs needsOther, ih, List.isChain_cons_cons]

/-- Where a line feed is put behind an open seam, the second text needs it if it is not empty. -/
theorem isOpenSeam.starts (isOpen : isOpenSeam first second = true) (filled : second.toList ≠ []) :
    ∃ c more, second.toList = c :: more ∧ c ≠ '\n' := by
  obtain ⟨c, more, starts⟩ := List.exists_cons_of_ne_nil filled
  refine ⟨c, more, starts, fun feed => ?_⟩
  simp [isOpenSeam, starts, feed] at isOpen

/-- The rule of the outputs asks for line feeds that are needed. -/
theorem needsFeed_apartByOutput : NeedsFeed apartByOutput := by
  intro first second asked
  obtain ⟨holds, isOpen⟩ := Bool.and_eq_true_iff.1 asked
  exact isOpenSeam.starts isOpen (List.ne_nil_of_mem (of_decide_eq_true holds))

/-- The rule of the body asks for line feeds that are needed. -/
theorem needsFeed_apartByBody (body : List Node) : NeedsFeed (apartByBody body) := by
  intro first second asked
  obtain ⟨asked, isOpen⟩ := Bool.and_eq_true_iff.1 asked
  have filled : second ≠ "" := of_decide_eq_true (Bool.and_eq_true_iff.1 asked).2
  exact isOpenSeam.starts isOpen fun empty => filled (String.toList_eq_nil_iff.1 empty)

/-- Joining outputs as a body says puts line feeds where its rule asks for them: nowhere, if it
does not go over several lines. -/
theorem joinedByBody_eq (body : List Node) (chunks : List String) :
    joinedByBody body chunks = separated (apartByBody body) chunks := by
  unfold joinedByBody
  split
  · rfl
  · rename_i inline
    have never : apartByBody body = fun _ _ => false := by
      funext first second
      simp [apartByBody, inline]
    rw [never, separated_never]

end Separated

/-- A body says of two outputs what they say themselves: where they meet without a line feed, the
second one holds a line feed exactly when the body goes over several lines and the first one is not
empty. -/
def SaysTheSame (body : List Node) (first second : String) : Prop :=
  isOpenSeam first second = true → second ≠ "" →
    ('\n' ∈ second.toList ↔ isMultiline body = true ∧ first ≠ "")

/-- The two rules agree about two outputs exactly when the body says of them what they say. -/
theorem apartByOutput_eq_apartByBody_iff {body : List Node} {first second : String} :
    apartByOutput first second = apartByBody body first second ↔ SaysTheSame body first second := by
  unfold SaysTheSame apartByOutput apartByBody
  cases isOpen : isOpenSeam first second with
  | false => simp
  | true =>
    by_cases empty : second = ""
    · simp [empty]
    · rw [Bool.eq_iff_iff]
      simp [empty]

/-- An iteration over a list renders exactly when all single iterations do. Its output is theirs
one behind another, with a line feed in front of one that holds a line feed itself, where none
stands between it and the one before. So it is what the text of the body says, which is that
outputs are concatenated if it holds no line feed, and that those which are not empty are kept
apart by a line feed if it holds one, exactly when the body says of any two outputs that follow
each other what they say themselves. -/
theorem renderNode_each_joined {σ : Type} (insert : Scope → String → Attempt σ Fragment)
    (scope : Scope) (path : String) (body : List Node) {items : List Value}
    (listed : scope.lookup path = some (.list items)) (state : σ) :
    (∀ fragment after,
      (renderNode insert scope (.each path body)).run state = (.ok fragment, after) ↔
        ∃ fragments, Iterates (fun item index => renderBody insert (scope.enter item index) body)
            0 items state fragments after ∧
          fragment = ⟨separated apartByOutput (fragments.map Fragment.text),
            fragments.flatMap Fragment.warnings⟩) ∧
    ∀ chunks, separated apartByOutput chunks = joinedByBody body chunks ↔
      chunks.IsChain (SaysTheSame body) := by
  constructor
  · intro fragment after
    rw [renderNode, listed]
    dsimp only
    rw [Attempt.run_bind]
    rcases ran : (renderItems (fun item index => renderBody insert (scope.enter item index) body)
      0 items).run state with ⟨answer, last⟩
    constructor
    · intro rendered
      cases answer with
      | error failure => cases rendered
      | ok fragments =>
        cases rendered
        refine ⟨fragments, renderItems_run_iff.1 ran, ?_⟩
        rw [← joinChunks_none]
        rfl
    · rintro ⟨fragments, iterates, rfl⟩
      rw [renderItems_run_iff.2 iterates] at ran
      cases ran
      rw [← joinChunks_none]
      rfl
  · intro chunks
    rw [joinedByBody_eq, separated_eq_iff needsFeed_apartByOutput (needsFeed_apartByBody body)]
    simp only [apartByOutput_eq_apartByBody_iff]

/-- Two items, one of which is shown over two lines. -/
def twoItems : Scope := ⟨.ofList [("xs", .list [.string "a", .string "b\nc"])], []⟩

/-- The lines of the items follow each other, and no line is added between them. -/
theorem renderNode_each_joined_twoItems :
    let body := [Node.text "- ", .variable "this", .text "\n"]
    let render (item : Value) (index : Nat) : Attempt Unit Fragment :=
      renderBody (fun _ _ => pure .empty) (twoItems.enter item index) body
    twoItems.lookup "xs" = some (.list [.string "a", .string "b\nc"]) ∧
      ∃ fragments, Iterates render 0 [.string "a", .string "b\nc"] () fragments () ∧
        separated apartByOutput (fragments.map Fragment.text) = "- a\n- b\nc\n" := by
  intro body render
  have listed : twoItems.lookup "xs" = some (.list [.string "a", .string "b\nc"]) := by rfl
  have ran : (renderNode (fun _ _ => pure .empty) twoItems (.each "xs" body)).run () =
      (.ok ⟨"- a\n- b\nc\n", []⟩, ()) := by rfl
  obtain ⟨fragments, iterates, joined⟩ :=
    ((renderNode_each_joined _ twoItems "xs" body listed ()).1 _ _).1 ran
  exact ⟨listed, fragments, iterates, (congrArg Fragment.text joined).symm⟩

example : separated apartByOutput ["a\nb", "c\nd"] = "a\nb\nc\nd" ∧
    joinedByBody [.variable "this"] ["a\nb", "c\nd"] = "a\nbc\nd" := by decide +kernel

example : separated apartByOutput ["a\nb", "c"] = "a\nbc" ∧
    joinedByBody [.choice [("this", [.text "a\nb"])] (some [.text "c"])] ["a\nb", "c"] =
      "a\nb\nc" := by decide +kernel

end NoteTemplate.Template
