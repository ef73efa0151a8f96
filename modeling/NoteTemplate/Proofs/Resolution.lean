import NoteTemplate.Store.Loader
import NoteTemplate.Store.Memory

/-!
# What filling in parents leads to

`Resolves` says by rules, without a cache and without a bound on the steps, what a stored
template below a chain resolves to. The rules are functional, fail by a circle only, and
read nothing but the names whose stamps they record, so two stores that agree on these
names resolve alike.
-/

namespace NoteTemplate

open Template (Compiled)

/-- The parent that a stored text names. -/
def Source.parent? (source : Source) : Option String := Template.parentName? source.text.toList

/-- A resolution that ends at a template without a parent. -/
def Resolved.ofRoot (name : String) (source : Source) : Resolved :=
  ⟨some source.text, [(name, some source.modified)], []⟩

/-- A resolution that ends at a name without a template. -/
def Resolved.ofMissing (name : String) : Resolved := ⟨none, [(name, none)], []⟩

/-- What a resolution is prepared to; none if there is no template. -/
def Resolved.compiled? (name : String) (resolved : Resolved) : Option Compiled :=
  resolved.text.map fun text => Compiled.ofText name text resolved.warnings

/-- What a name resolves to below the templates of a chain. -/
inductive Resolves (stored? : String → Option Source) :
    List String → String → Except Failure Resolved → Prop where
  /-- There is no template of the name. -/
  | missing {chain : List String} {name : String} (absent : stored? name = none) :
      Resolves stored? chain name (.ok (.ofMissing name))
  /-- The template names no parent. -/
  | root {chain : List String} {name : String} {source : Source}
      (found : stored? name = some source) (last : source.parent? = none) :
      Resolves stored? chain name (.ok (.ofRoot name source))
  /-- The parent is a template of the chain, or the template itself. -/
  | circular {chain : List String} {name parent : String} {source : Source}
      (found : stored? name = some source) (next : source.parent? = some parent)
      (met : parent ∈ chain ++ [name]) :
      Resolves stored? chain name (.error (.circular (chain ++ [name] ++ [parent])))
  /-- No template can have the name of the parent. -/
  | orphan {chain : List String} {name parent : String} {source : Source}
      (found : stored? name = some source) (next : source.parent? = some parent)
      (new : parent ∉ chain ++ [name]) (refused : isTemplateName parent = false) :
      Resolves stored? chain name (.ok (fillIn name parent source ⟨none, [], []⟩))
  /-- The parent is resolved and filled in. -/
  | filled {chain : List String} {name parent : String} {source : Source} {above : Resolved}
      (found : stored? name = some source) (next : source.parent? = some parent)
      (new : parent ∉ chain ++ [name]) (allowed : isTemplateName parent = true)
      (upper : Resolves stored? (chain ++ [name]) parent (.ok above)) :
      Resolves stored? chain name (.ok (fillIn name parent source above))
  /-- The parent cannot be resolved. -/
  | failed {chain : List String} {name parent : String} {source : Source} {failure : Failure}
      (found : stored? name = some source) (next : source.parent? = some parent)
      (new : parent ∉ chain ++ [name]) (allowed : isTemplateName parent = true)
      (upper : Resolves stored? (chain ++ [name]) parent (.error failure)) :
      Resolves stored? chain name (.error failure)

/-- What the name of a stored template is prepared to. -/
def MemoryStore.Prepares (store : MemoryStore) (name : String)
    (answer : Except Failure (Option Compiled)) : Prop :=
  ∃ resolved, Resolves store.stored? [] name resolved ∧
    answer = resolved.map (Resolved.compiled? name)

/-- Filling in puts the stamp of the template in front of those of its parents. -/
theorem fillIn_stamps (name parent : String) (source : Source) (above : Resolved) :
    (fillIn name parent source above).stamps = (name, some source.modified) :: above.stamps := by
  unfold fillIn
  dsimp only
  split <;> rfl

/-- A template that is filled in has a text. -/
theorem fillIn_text (name parent : String) (source : Source) (above : Resolved) :
    ((fillIn name parent source above).text).isSome := by
  unfold fillIn
  dsimp only
  split <;> rfl

/-- What comes up while a parent is filled in came up above, or is that the parent is missing. -/
theorem mem_fillIn_warnings {name parent : String} {source : Source} {above : Resolved}
    {warning : Template.Warning} (member : warning ∈ (fillIn name parent source above).warnings) :
    warning ∈ above.warnings ∨ warning = .missingParent name parent := by
  unfold fillIn at member
  dsimp only at member
  split at member
  · exact .inl member
  · exact .inl member
  · rcases List.mem_append.1 member with early | late
    · exact .inl early
    · exact .inr (List.mem_singleton.1 late)

namespace Resolves

variable {stored? other? : String → Option Source} {chain : List String} {name : String}

/-- A name resolves to one answer only. -/
theorem functional {first second : Except Failure Resolved}
    (one : Resolves stored? chain name first) (two : Resolves stored? chain name second) :
    first = second := by
  induction one generalizing second with
  | missing absent => cases two <;> simp_all
  | root found last => cases two <;> simp_all
  | circular found next met => cases two <;> simp_all
  | orphan found next new refused => cases two <;> simp_all
  | filled found next new allowed upper ih =>
    cases two with
    | filled found' next' new' allowed' upper' =>
      obtain rfl := Option.some.inj (found.symm.trans found')
      obtain rfl := Option.some.inj (next.symm.trans next')
      rw [Except.ok.inj (ih upper')]
    | failed found' next' new' allowed' upper' =>
      obtain rfl := Option.some.inj (found.symm.trans found')
      obtain rfl := Option.some.inj (next.symm.trans next')
      cases ih upper'
    | _ => simp_all
  | failed found next new allowed upper ih =>
    cases two with
    | filled found' next' new' allowed' upper' =>
      obtain rfl := Option.some.inj (found.symm.trans found')
      obtain rfl := Option.some.inj (next.symm.trans next')
      cases ih upper'
    | failed found' next' new' allowed' upper' =>
      obtain rfl := Option.some.inj (found.symm.trans found')
      obtain rfl := Option.some.inj (next.symm.trans next')
      exact ih upper'
    | _ => simp_all

/-- The only failure of a resolution is a circle. -/
theorem circular_of_error {failure : Failure}
    (resolves : Resolves stored? chain name (.error failure)) :
    ∃ circle, failure = .circular circle := by
  generalize same : Except.error failure = answer at resolves
  induction resolves with
  | circular _ _ _ => exact ⟨_, Except.error.inj same⟩
  | failed _ _ _ _ _ ih => exact ih same
  | _ => cases same

/-- A stored template resolves to a text. -/
theorem text_isSome {resolved : Resolved} (resolves : Resolves stored? chain name (.ok resolved))
    (found : (stored? name).isSome) : resolved.text.isSome := by
  cases resolves with
  | missing absent => simp [absent] at found
  | root _ _ => rfl
  | orphan _ _ _ _ => exact fillIn_text _ _ _ _
  | filled _ _ _ _ _ => exact fillIn_text _ _ _ _

/-- The recorded stamps are those of the store. -/
theorem stamps_stored {resolved : Resolved}
    (resolves : Resolves stored? chain name (.ok resolved)) :
    ∀ key stamp, (key, stamp) ∈ resolved.stamps → stamp = (stored? key).map Source.modified := by
  generalize same : Except.ok resolved = answer at resolves
  induction resolves generalizing resolved with
  | missing absent =>
    obtain rfl := Except.ok.inj same
    simp [Resolved.ofMissing, absent]
  | root found _ =>
    obtain rfl := Except.ok.inj same
    simp [Resolved.ofRoot, found]
  | orphan found _ _ _ =>
    obtain rfl := Except.ok.inj same
    simp [fillIn_stamps, found]
  | filled found _ _ _ _ ih =>
    obtain rfl := Except.ok.inj same
    intro key stamp member
    rw [fillIn_stamps, List.mem_cons] at member
    rcases member with here | above
    · cases here
      simp [found]
    · exact ih rfl key stamp above
  | _ => cases same

/-- A resolution depends on no other names than those whose stamps it records. -/
theorem of_agree {resolved : Resolved} (resolves : Resolves stored? chain name (.ok resolved))
    (agree : ∀ key stamp, (key, stamp) ∈ resolved.stamps → other? key = stored? key) :
    Resolves other? chain name (.ok resolved) := by
  generalize same : Except.ok resolved = answer at resolves
  induction resolves generalizing resolved with
  | missing absent =>
    obtain rfl := Except.ok.inj same
    exact .missing ((agree _ none (by simp [Resolved.ofMissing])).trans absent)
  | root found last =>
    obtain rfl := Except.ok.inj same
    exact .root ((agree _ _ (List.mem_singleton.2 rfl)).trans found) last
  | orphan found next new refused =>
    obtain rfl := Except.ok.inj same
    exact .orphan ((agree _ _ (by rw [fillIn_stamps]; exact List.mem_cons_self)).trans found)
      next new refused
  | filled found next new allowed _ ih =>
    obtain rfl := Except.ok.inj same
    rw [fillIn_stamps] at agree
    have upper := ih (fun key stamp above => agree key stamp (List.mem_cons_of_mem _ above)) rfl
    exact .filled ((agree _ _ List.mem_cons_self).trans found) next new allowed upper
  | _ => cases same

/-- What resolves below a chain resolves alike below a part of the chain. -/
theorem of_subset {resolved : Resolved} {part : List String}
    (resolves : Resolves stored? chain name (.ok resolved)) (subset : part ⊆ chain) :
    Resolves stored? part name (.ok resolved) := by
  generalize same : Except.ok resolved = answer at resolves
  induction resolves generalizing resolved part with
  | missing absent =>
    obtain rfl := Except.ok.inj same
    exact .missing absent
  | root found last =>
    obtain rfl := Except.ok.inj same
    exact .root found last
  | @orphan chain name _ _ found next new refused =>
    obtain rfl := Except.ok.inj same
    have wider : part ++ [name] ⊆ chain ++ [name] := List.append_subset.2
      ⟨List.subset_append_of_subset_left _ subset, List.subset_append_right _ _⟩
    exact .orphan found next (fun met => new (wider met)) refused
  | @filled chain name _ _ _ found next new allowed _ ih =>
    obtain rfl := Except.ok.inj same
    have wider : part ++ [name] ⊆ chain ++ [name] := List.append_subset.2
      ⟨List.subset_append_of_subset_left _ subset, List.subset_append_right _ _⟩
    exact .filled found next (fun met => new (wider met)) allowed (ih wider rfl)
  | _ => cases same

/-- The parent of a template that resolves, if a template can have its name, resolves by
itself. -/
theorem parent {resolved : Resolved} {source : Source} {above : String}
    (resolves : Resolves stored? chain name (.ok resolved)) (found : stored? name = some source)
    (next : source.parent? = some above) (allowed : isTemplateName above = true) :
    ∃ upper, Resolves stored? [] above (.ok upper) := by
  cases resolves with
  | missing absent => simp_all
  | root _ last => simp_all
  | orphan _ _ _ refused => simp_all
  | filled found' next' _ _ upper =>
    obtain rfl := Option.some.inj (found.symm.trans found')
    obtain rfl := Option.some.inj (next.symm.trans next')
    exact ⟨_, upper.of_subset (List.nil_subset _)⟩

/-- All that comes up while parents are filled in is that some are missing. -/
theorem missingParent_of_mem {resolved : Resolved}
    (resolves : Resolves stored? chain name (.ok resolved)) :
    ∀ warning ∈ resolved.warnings, ∃ child parent, warning = .missingParent child parent := by
  generalize same : Except.ok resolved = answer at resolves
  induction resolves generalizing resolved with
  | missing absent =>
    obtain rfl := Except.ok.inj same
    simp [Resolved.ofMissing]
  | root found last =>
    obtain rfl := Except.ok.inj same
    simp [Resolved.ofRoot]
  | orphan found next new refused =>
    obtain rfl := Except.ok.inj same
    intro warning member
    rcases mem_fillIn_warnings member with above | here
    · cases above
    · exact ⟨_, _, here⟩
  | filled found next new allowed upper ih =>
    obtain rfl := Except.ok.inj same
    intro warning member
    rcases mem_fillIn_warnings member with above | here
    · exact ih rfl warning above
    · exact ⟨_, _, here⟩
  | _ => cases same

end Resolves

end NoteTemplate
