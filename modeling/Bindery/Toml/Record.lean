import Bindery.Toml.Basic

/-!
# Records in TOML

A record is a table, in which unknown entries are ignored, or an array of its fields in
declaration order, in which items past the last field are.  A date standing where a table is
expected reads as the table with that date as its only entry.
-/

namespace Bindery.Toml

/-- The key under which a date that stands for a table holds its text. -/
def datetimeKey : String := "$__toml_private_datetime"

/-- The entries of a value that is read as a table. -/
def entries? : Toml → Option (List (String × Toml))
  | .table entries => some entries
  | .datetime text => some [(datetimeKey, .string text)]
  | _ => none

/-- One slot for each of the fields `names` of a record, empty where the field is missing. -/
def fields? (names : List String) : Toml → Option (List (Option Toml))
  | .array items =>
    some ((items.take names.length).map some ++ List.replicate (names.length - items.length) none)
  | v => (entries? v).map fun entries => names.map (List.lookup · entries)

/-- The value of a field that has to be present. -/
def required? {α : Type} (read : Toml → Option α) (slot : Option Toml) : Option α :=
  slot.bind read

/-- The value of a field that is `absent` when missing. -/
def defaulted? {α : Type} (read : Toml → Option α) (absent : α) : Option Toml → Option α
  | some v => read v
  | none => some absent

/-- A text. -/
def text? : Toml → Option String
  | .string text => some text
  | _ => none

/-- A list, item by item. -/
def list? {α : Type} (read : Toml → Option α) : Toml → Option (List α)
  | .array items => items.mapM read
  | _ => none

/-- Texts under arbitrary keys. -/
def texts? (v : Toml) : Option (List (String × String)) := do
  (← entries? v).mapM fun (key, v) => (text? v).map (key, ·)

end Bindery.Toml
