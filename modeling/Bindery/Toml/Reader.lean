import Bindery.Toml.Datetime
import Bindery.Toml.Number
import Bindery.Toml.Table
import Bindery.Toml.Text

/-!
# Reading TOML

Values first, then the lines of a document.  Arrays may run over several lines, end in a comma and
hold comments; inline tables may not.  Arrays and inline tables nest up to `depthLimit`.

`fuel` bounds the number of steps of the readers below; between two steps that follow one another
at least one character is taken, or one container is begun, so three steps for each character are
enough.
-/

namespace Bindery.Toml

/-! ## Values -/

/-- A value that is neither an array nor an inline table. -/
def scalar? (cs : List Char) : Option (Toml × List Char) :=
  match cs with
  | [] => none
  | 't' :: 'r' :: 'u' :: 'e' :: rest => some (.bool true, rest)
  | 'f' :: 'a' :: 'l' :: 's' :: 'e' :: rest => some (.bool false, rest)
  | c :: _ =>
    if c = '"' || c = '\'' then (string? cs).map fun (s, rest) => (.string s, rest)
    else ((datetime? cs).orElse fun _ => float? cs).orElse fun _ => integer? cs

mutual

/-- The value at the front, in containers that leave room for `depth` more. -/
def value? : (fuel depth : Nat) → List Char → Option (Toml × List Char)
  | 0, _, _ => none
  | fuel + 1, depth, '[' :: rest =>
    match depth with
    | 0 => none
    | depth + 1 => items? fuel depth [] (skipGaps false rest)
  | fuel + 1, depth, '\x7b' :: rest =>
    match depth with
    | 0 => none
    | depth + 1 =>
      match skipBlanks rest with
      | '\x7d' :: rest => some (.table [], rest)
      | rest => members? fuel depth [] rest
  | _ + 1, _, cs => scalar? cs

/-- The rest of an array, in front of an item or the end.  Earlier items are kept in reverse. -/
def items? : (fuel depth : Nat) → (before : List Toml) → List Char → Option (Toml × List Char)
  | 0, _, _, _ => none
  | _ + 1, _, before, ']' :: rest => some (.array before.reverse, rest)
  | fuel + 1, depth, before, cs =>
    match value? fuel depth cs with
    | none => none
    | some (v, rest) =>
      match skipGaps false rest with
      | ',' :: rest => items? fuel depth (v :: before) (skipGaps false rest)
      | ']' :: rest => some (.array (v :: before).reverse, rest)
      | _ => none

/-- The rest of an inline table, in front of a key. -/
def members? : (fuel depth : Nat) → (entries : Entries) → List Char → Option (Toml × List Char)
  | 0, _, _, _ => none
  | fuel + 1, depth, entries, cs =>
    match key? depthLimit cs with
    | some (key, '=' :: rest) =>
      match value? fuel depth (skipBlanks rest) with
      | none => none
      | some (v, rest) =>
        match entries.assign? key.dropLast (key.getLastD "") v with
        | none => none
        | some entries =>
          match skipBlanks rest with
          | ',' :: rest => members? fuel depth entries rest
          | '\x7d' :: rest => some (entries.finish, rest)
          | _ => none
    | _ => none

end

/-! ## Documents -/

/-- A document as far as it was read. -/
structure Document where
  entries : Entries
  /-- The header that the following assignments belong to. -/
  header : List String

/-- The document after a table header, without its opening bracket. -/
def Document.table? (d : Document) (cs : List Char) : Option (Document × List Char) :=
  match key? depthLimit cs with
  | some (key, ']' :: rest) => do
    let rest ← lineEnd? rest
    let entries ← d.entries.open? key.dropLast (key.getLastD "")
    return ({ entries, header := key }, rest)
  | _ => none

/-- The document after the header of an array of tables, without its opening brackets. -/
def Document.element? (d : Document) (cs : List Char) : Option (Document × List Char) :=
  match key? depthLimit cs with
  | some (key, ']' :: ']' :: rest) => do
    let rest ← lineEnd? rest
    let entries ← d.entries.openElement? key.dropLast (key.getLastD "")
    return ({ entries, header := key }, rest)
  | _ => none

/-- The document after an assignment. -/
def Document.assign? (d : Document) (cs : List Char) : Option (Document × List Char) :=
  match key? depthLimit cs with
  | some (key, '=' :: rest) => do
    let (v, rest) ← value? (3 * rest.length + 3) depthLimit (skipBlanks rest)
    let rest ← lineEnd? rest
    let entries ← d.entries.assignBelow? d.header key.dropLast (key.getLastD "") v
    return ({ d with entries }, rest)
  | _ => none

/-- The document after one more line, which starts without blanks. -/
def Document.line? (d : Document) (cs : List Char) : Option (Document × List Char) :=
  match cs with
  | '[' :: '[' :: rest => d.element? rest
  | '[' :: rest => d.table? rest
  | '#' :: _ => (lineEnd? cs).map (d, ·)
  | cs =>
    match newline? cs with
    | some rest => some (d, rest)
    | none => d.assign? cs

/-- The document after all lines. -/
def Document.lines? (d : Document) : (fuel : Nat) → List Char → Option Document
  | fuel, cs =>
    match skipBlanks cs with
    | [] => some d
    | cs =>
      match fuel with
      | 0 => none
      | fuel + 1 =>
        match d.line? cs with
        | some (d, rest) => Document.lines? d fuel rest
        | none => none

/-- The table that a text denotes.  A byte order mark at its start is dropped. -/
def parse? (s : String) : Option Toml :=
  let cs := match s.toList with
    | '\ufeff' :: rest => rest
    | cs => cs
  (Document.lines? { entries := [], header := [] } cs.length cs).map (·.entries.finish)

end Bindery.Toml
