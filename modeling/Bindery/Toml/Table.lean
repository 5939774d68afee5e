import Bindery.Toml.Basic

/-!
# Tables under construction

A document fills tables from three directions: assignments, table headers and headers of arrays
of tables.  What one direction made, another may or may not touch, so a table under construction
remembers how it came to be.

* An *explicit* table has had its header.  Dotted keys from outside may not enter it, and it gets
  no second header.
* A *header* table was only passed through by a longer header; its own header may still come.
* A *dotted* table was made by a dotted key.  Only dotted keys add entries of their own to it, and
  it never gets a header.

Inline tables are finished values: nothing enters them afterwards.
-/

namespace Bindery.Toml

/-- How a table came to be. -/
inductive Making where
  | explicit
  | header
  | dotted
deriving DecidableEq

/-- What a key leads to in a table under construction. -/
inductive Node where
  | value (v : Toml)
  | table (making : Making) (entries : List (String × Node))
  /-- The tables of an array of tables, the last one first. -/
  | tables (elements : List (List (String × Node)))

/-- The entries of a table under construction. -/
abbrev Entries := List (String × Node)

/-- The entries with the one of `key` replaced. -/
def Entries.replace (key : String) (node : Node) : Entries → Entries
  | [] => []
  | (k, n) :: rest => if k = key then (k, node) :: rest else (k, n) :: replace key node rest

/-- The entries after `change` was made in the table that a path leads to.  Missing tables on the
way are made, dotted ones if a dotted key walks the path; an array of tables is entered at its last
table.  The change is told how its table came to be. -/
def Entries.alter? (byDottedKey : Bool) (change : Making → Entries → Option Entries) :
    (making : Making) → (path : List String) → Entries → Option Entries
  | making, [], entries => change making entries
  | _, key :: path, entries =>
    match entries.lookup key with
    | none =>
      let making := if byDottedKey then Making.dotted else .header
      (alter? byDottedKey change making path []).map fun inner =>
        entries ++ [(key, .table making inner)]
    | some (.value _) => none
    | some (.table making inner) =>
      if byDottedKey && making == .explicit then none
      else (alter? byDottedKey change making path inner).map fun inner =>
        Entries.replace key (.table making inner) entries
    | some (.tables []) => none
    | some (.tables (last :: earlier)) =>
      (alter? byDottedKey change .explicit path last).map fun last =>
        Entries.replace key (.tables (last :: earlier)) entries

/-- The entries with a new one for `key`, unless it has one. -/
def Entries.add? (key : String) (node : Node) (entries : Entries) : Option Entries :=
  if (entries.lookup key).isSome then none else some (entries ++ [(key, node)])

/-- The entries after an assignment with a dotted key, whose last part is `key`. -/
def Entries.assign? (path : List String) (key : String) (v : Toml) (entries : Entries) :
    Option Entries :=
  entries.alter? true
    (fun making inner =>
      if path.isEmpty || making == .dotted then Entries.add? key (.value v) inner else none)
    .explicit path

/-- The entries after an assignment below a header. -/
def Entries.assignBelow? (header path : List String) (key : String) (v : Toml)
    (entries : Entries) : Option Entries :=
  entries.alter? false (fun _ inner => Entries.assign? path key v inner) .explicit header

/-- The entries after a table header, whose last part is `key`. -/
def Entries.open? (path : List String) (key : String) (entries : Entries) : Option Entries :=
  entries.alter? false
    (fun _ inner =>
      match inner.lookup key with
      | none => some (inner ++ [(key, .table .explicit [])])
      | some (.table .header content) => some (Entries.replace key (.table .explicit content) inner)
      | some _ => none)
    .explicit path

/-- The entries after the header of an array of tables, whose last part is `key`. -/
def Entries.openElement? (path : List String) (key : String) (entries : Entries) : Option Entries :=
  entries.alter? false
    (fun _ inner =>
      match inner.lookup key with
      | none => some (inner ++ [(key, .tables [[]])])
      | some (.tables elements) => some (Entries.replace key (.tables ([] :: elements)) inner)
      | some _ => none)
    .explicit path

/-! ## Finished tables -/

mutual

/-- The value that a finished node denotes. -/
def Node.finish : Node → Toml
  | .value v => v
  | .table _ entries => .table (finishEntries entries)
  | .tables elements => .array (finishElements elements).reverse

/-- The entries of a finished table. -/
def Node.finishEntries : List (String × Node) → List (String × Toml)
  | [] => []
  | (key, node) :: rest => (key, node.finish) :: finishEntries rest

/-- The tables of a finished array of tables. -/
def Node.finishElements : List (List (String × Node)) → List Toml
  | [] => []
  | entries :: rest => .table (finishEntries entries) :: finishElements rest

end

/-- The table that finished entries denote. -/
def Entries.finish (entries : Entries) : Toml :=
  .table (Node.finishEntries entries)

end Bindery.Toml
