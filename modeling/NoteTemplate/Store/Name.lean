import NoteTemplate.Failure

/-!
# Names of stored templates

A template name is a file name without its ending: it is not empty, not too long,
does not start with a dot, and consists of letters, numbers, hyphens, underscores
and dots. So no name can lead out of the folder that its template lies in.
-/

namespace NoteTemplate

/-- A character that a template name can hold. -/
def isTemplateNameCharacter (c : Char) : Bool :=
  Text.isAlphanumeric c || c == '-' || c == '_' || c == '.'

/-- What is wrong with a template name, if anything. The length is looked at before
the characters. -/
def nameFault? (name : String) : Option Rejection :=
  if name.isEmpty then some .emptyName
  else if nameLimit < name.length then some .longName
  else if name.toList.head? = some '.' then some (.hiddenName name)
  else (name.toList.find? (!isTemplateNameCharacter ·)).map fun c => .badCharacter c name

/-- Whether a template can have a name. -/
def isTemplateName (name : String) : Bool := (nameFault? name).isNone

/-- Turns a name down that no template can have. -/
def checkName (name : String) : Except Failure Unit :=
  match nameFault? name with
  | some rejection => .error (.rejected rejection)
  | none => .ok ()

/-- A name is allowed exactly when the check of it passes. -/
theorem checkName_of_isTemplateName {name : String} (allowed : isTemplateName name = true) :
    checkName name = .ok () := by
  unfold checkName
  rw [Option.isNone_iff_eq_none.1 allowed]

/-- An allowed name is not empty. -/
theorem ne_empty_of_isTemplateName {name : String} (allowed : isTemplateName name = true) :
    name ≠ "" := by
  rintro rfl
  simp [isTemplateName, nameFault?] at allowed

/-- The check of any other name turns it down. -/
theorem checkName_of_refused {name : String} (refused : isTemplateName name = false) :
    ∃ rejection, checkName name = .error (.rejected rejection) := by
  cases fault : nameFault? name with
  | none => simp [isTemplateName, fault] at refused
  | some rejection => exact ⟨rejection, by simp only [checkName, fault]⟩

end NoteTemplate
