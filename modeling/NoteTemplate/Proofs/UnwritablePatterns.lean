import NoteTemplate.Template.Rendering

/-!
# Patterns that cannot be written

The pattern of a date can hold an offset in a form that is for reading only. Such a pattern is
accepted, but a moment has no text by it, and the call aborts the rendering. No other function does
that, and this one does it for moments only (`call_eq_unwritable_iff`). So a node shows by itself
whether it can abort a rendering (`Node.MayAbort`, `leaf?_error`).
-/

namespace NoteTemplate.Template

/-- A pattern is accepted and holds an offset in the form that is for reading only. -/
def IsUnwritable (pattern : List Char) : Prop :=
  ∃ parts ∈ Calendar.parts? pattern, .looseOffset ∈ parts

/-- Whether a pattern cannot be written can be computed. -/
instance (pattern : List Char) : Decidable (IsUnwritable pattern) :=
  inferInstanceAs (Decidable (∃ parts ∈ Calendar.parts? pattern, .looseOffset ∈ parts))

/-- A function that is called by its name never lacks, and only the one for dates meets a pattern
that cannot be written. -/
theorem function?_fault {name : String} {needed : Nat} {arguments : Arguments} {fault : CallFault}
    {function : Arguments → Except CallFault String}
    (found : function? name = some (needed, function))
    (faulty : function arguments = .error fault) :
    fault ≠ .unknown ∧ (fault = .unwritable → name = "date_format") := by
  unfold function? at found
  split at found <;> cases found
  · unfold truncate at faulty
    split at faulty
    · cases faulty
      exact ⟨nofun, nofun⟩
    · dsimp only at faulty
      split at faulty <;> cases faulty
  · refine ⟨?_, fun _ => rfl⟩
    rintro rfl
    unfold dateFormat at faulty
    repeat' split at faulty
    all_goals cases faulty
  · cases faulty
  · unfold numberFormat at faulty
    dsimp only at faulty
    split at faulty
    · unfold formatNumber at faulty
      repeat' split at faulty
      all_goals cases faulty
      exact ⟨nofun, nofun⟩
    · split at faulty <;> cases faulty
      exact ⟨nofun, nofun⟩
  · cases faulty
  · cases faulty
  · unfold defaultText at faulty
    dsimp only at faulty
    split at faulty <;> cases faulty

/-- A date cannot be written exactly when it is a moment and the pattern cannot be. -/
theorem dateFormat_eq_unwritable_iff {arguments : Arguments} :
    dateFormat arguments = .error .unwritable ↔
      (arguments.value 0).moment?.isSome ∧ IsUnwritable (arguments.literal 1) := by
  unfold dateFormat IsUnwritable
  cases Calendar.parts? (arguments.literal 1) with
  | none => simp
  | some parts =>
    simp only [Option.mem_some, exists_eq_left', ← Calendar.items?_eq_none_iff]
    cases (arguments.value 0).moment? with
    | none => simp
    | some time => cases Calendar.items? parts <;> simp

/-- A call is aborted exactly when a moment is to be written by a pattern that cannot be. -/
theorem call_eq_unwritable_iff {lookup : Lookup} {name source : String} :
    call lookup name source = .error .unwritable ↔
      name = "date_format" ∧ ∃ first second more,
        readArguments source.toList = first :: second :: more ∧
        (first.value lookup).moment?.isSome ∧ IsUnwritable second.text := by
  constructor
  · intro aborted
    unfold call at aborted
    split at aborted
    · cases aborted
    · rename_i needed function found
      dsimp only at aborted
      split at aborted
      · cases aborted
      · obtain rfl := (function?_fault found aborted).2 rfl
        cases found
        rename_i enough
        obtain ⟨moment, unwritable⟩ := dateFormat_eq_unwritable_iff.1 aborted
        refine ⟨rfl, ?_⟩
        cases read : readArguments source.toList with
        | nil => simp [read] at enough
        | cons first rest =>
          cases rest with
          | nil => simp [read] at enough
          | cons second more =>
            simp only [Arguments.value, Arguments.literal, read, List.getElem?_cons_zero,
              List.getElem?_cons_succ] at moment unwritable
            exact ⟨first, second, more, rfl, moment, unwritable⟩
  · rintro ⟨rfl, first, second, more, read, moment, unwritable⟩
    have aborted : dateFormat ⟨first :: second :: more, lookup⟩ = .error .unwritable :=
      dateFormat_eq_unwritable_iff.2 ⟨moment, unwritable⟩
    simp [call, function?, read, aborted]

namespace Node

/-- A node that can abort a rendering: it calls the function for dates with a pattern that cannot be
written. -/
def MayAbort : Node → Prop
  | .call name source _ => name = "date_format" ∧
      ∃ pattern ∈ (readArguments source.toList)[1]?, IsUnwritable pattern.text
  | _ => False

/-- Whether a node can abort a rendering can be computed. -/
instance : DecidablePred MayAbort
  | .call name source _ => inferInstanceAs (Decidable (name = "date_format" ∧
      ∃ pattern ∈ (readArguments source.toList)[1]?, IsUnwritable pattern.text))
  | .text _ | .variable _ | .choice .. | .each .. | .block .. | .inclusion .. | .parent _
  | .unknown .. => isFalse not_false

/-- What a node that holds no others, and no template, renders to, unless it aborts the
rendering. -/
def leaf? (scope : Scope) : Node → Option (Except Failure Fragment)
  | .text content => some (.ok (.ofText content))
  | .variable path => some (.ok (renderVariable scope path))
  | .call name source _ => some (renderCall scope name source)
  | .parent _ => some (.ok .empty)
  | .unknown tag _ => some (.ok (.ofWarning (.unknownTag tag)))
  | _ => none

end Node

/-- A call fails to render exactly when it is aborted. -/
theorem renderCall_eq_error_iff {scope : Scope} {name source : String} {failure : Failure} :
    renderCall scope name source = .error failure ↔
      failure = .aborted ∧ call scope.lookup name source = .error .unwritable := by
  unfold renderCall
  cases call scope.lookup name source with
  | ok text => simp
  | error fault => cases fault <;> simp [Warning.ofCall?, eq_comm]

/-- A node that holds no others fails to render only if it can abort the rendering, and by that. -/
theorem Node.leaf?_error {scope : Scope} {node : Node} {failure : Failure}
    (fails : node.leaf? scope = some (.error failure)) : failure = .aborted ∧ node.MayAbort := by
  cases node with
  | call name source line =>
    obtain ⟨rfl, aborted⟩ := renderCall_eq_error_iff.1 (Option.some.inj fails)
    obtain ⟨isDate, first, second, more, read, -, unwritable⟩ := call_eq_unwritable_iff.1 aborted
    exact ⟨rfl, isDate, second, by rw [read]; rfl, unwritable⟩
  | _ => cases fails

end NoteTemplate.Template
