import NoteTemplate.Fields
import NoteTemplate.Number.Numeral

/-!
# Values of configuration files

A configuration file is a table. Tables come about in several ways, and the way decides
how a table can be added to further down in the file: a table is headed at most once, a
table that only lies on the way to others can still be headed, and one that is written
as a value is closed.
-/

namespace NoteTemplate

/-- How a table came about. -/
inductive TableOrigin where
  /-- By a heading of its own. -/
  | headed
  /-- On the way to a table that has a heading. -/
  | implied
  /-- On the way to a value that is named by a path. -/
  | pathed
  /-- As a value between braces. -/
  | closed
deriving Repr, DecidableEq

/-- A value. -/
inductive Toml where
  /-- A text. -/
  | string (text : String)
  /-- A whole number. -/
  | integer (value : Int)
  /-- A number with a fraction or an exponent, as it is written. -/
  | decimal (text : String)
  /-- A truth value. -/
  | boolean (value : Bool)
  /-- A date, a time or both, as written. -/
  | time (text : String)
  /-- A list of values; the flag is set for a list of tables that have headings. -/
  | array (isHeaded : Bool) (items : List Toml)
  /-- A table. -/
  | table (origin : TableOrigin) (fields : List (String × Toml))

namespace Toml

/-- Changes the table that a path leads to from other fields; missing tables on the way
are made. A path within one of several headed tables leads into the last of them. -/
def within (missing : TableOrigin) (change : Fields Toml → Option (Fields Toml)) :
    (path : List String) → Fields Toml → Option (Fields Toml)
  | [], fields => change fields
  | name :: path, fields =>
    match Fields.find? name fields with
    | none => do
      let inner ← within missing change path []
      return Fields.insert name (.table missing inner) fields
    | some (.table .closed _) => none
    | some (.table origin inner) =>
      if missing = .pathed ∧ origin = .headed then none
      else do
        let inner ← within missing change path inner
        return Fields.insert name (.table origin inner) fields
    | some (.array true items) =>
      match items.reverse with
      | .table origin inner :: before => do
        let inner ← within missing change path inner
        let items := (.table origin inner :: before).reverse
        return Fields.insert name (.array true items) fields
      | _ => none
    | some _ => none

/-- Gives a value to a name that has none. -/
def assignName (name : String) (value : Toml) (fields : Fields Toml) : Option (Fields Toml) :=
  if Fields.contains fields name then none else some (Fields.insert name value fields)

/-- Gives a value to a path that leads nowhere yet. -/
def assign (path : List String) (value : Toml) (fields : Fields Toml) : Option (Fields Toml) :=
  match path.reverse with
  | [] => none
  | name :: before => within .pathed (assignName name value) before.reverse fields

/-- Starts the table of a name, unless it was started before. -/
def startName (name : String) (fields : Fields Toml) : Option (Fields Toml) :=
  match Fields.find? name fields with
  | none => some (Fields.insert name (.table .headed []) fields)
  | some (.table .implied inner) => some (Fields.insert name (.table .headed inner) fields)
  | some _ => none

/-- Starts one more table in the list of a name. -/
def startItem (name : String) (fields : Fields Toml) : Option (Fields Toml) :=
  match Fields.find? name fields with
  | none => some (Fields.insert name (.array true [.table .headed []]) fields)
  | some (.array true items) =>
    some (Fields.insert name (.array true (items ++ [.table .headed []])) fields)
  | some _ => none

/-- Starts the table that a heading names. -/
def start (isItem : Bool) (path : List String) (fields : Fields Toml) : Option (Fields Toml) :=
  match path.reverse with
  | [] => none
  | name :: before =>
    within .implied (if isItem then startItem name else startName name) before.reverse fields

/-- The text of a value that is one. -/
def text? : Toml → Option String
  | .string text => some text
  | _ => none

/-- The number of a value that is a count of at most sixty-four bits. -/
def count? : Toml → Option Nat
  | .integer value => if 0 ≤ value ∧ value ≤ Number.largestCount then some value.toNat else none
  | _ => none

end Toml

end NoteTemplate
