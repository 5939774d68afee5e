import Bindery.Json.Basic

/-!
# Records in JSON

A record is presented either as an object, whose members may stand in any order and may be mixed
with unknown ones, or as the array of its fields in declaration order.  `fields?` brings both
forms to one: a list with a slot for each declared field, empty where the field is missing.  What
an empty slot means is for the record to say.

Refused are: a known member given twice, an array longer than the record, and an object with a key
that denotes no text.
-/

namespace Bindery.Json

/-- The slots of the fields `names` filled from members; `filled` holds the names met before. -/
def memberSlots? (names filled : List String) :
    List (Option String × Json) → Option (List (String × Json))
  | [] => some []
  | (none, _) :: _ => none
  | (some key, v) :: rest =>
    if key ∈ names then
      if key ∈ filled then none
      else (memberSlots? names (key :: filled) rest).map ((key, v) :: ·)
    else memberSlots? names filled rest

/-- One slot for each of the fields `names` of a record. -/
def fields? (names : List String) : Json → Option (List (Option Json))
  | .object members =>
    (memberSlots? names [] members).map fun slots => names.map (List.lookup · slots)
  | .array items =>
    if items.length ≤ names.length then
      some (items.map some ++ List.replicate (names.length - items.length) none)
    else none
  | _ => none

/-- The value of a field that has to be present. -/
def required? {α : Type} (read : Json → Option α) (slot : Option Json) : Option α :=
  slot.bind read

/-- The value of a field that is `absent` when missing. -/
def defaulted? {α : Type} (read : Json → Option α) (absent : α) : Option Json → Option α
  | some v => read v
  | none => some absent

/-! ## Values of fields -/

/-- A text. -/
def text? : Json → Option String
  | .string text => text
  | _ => none

/-- A truth value. -/
def bool? : Json → Option Bool
  | .bool b => some b
  | _ => none

/-- The number that a spelling denotes, if it is a plain sequence of digits. -/
def digitsValue? (spelling : String) : Option Nat :=
  let ds := spelling.toList
  if ds ≠ [] ∧ ds.all Char.isDigit then
    some (ds.foldl (fun n c => 10 * n + (c.toNat - '0'.toNat)) 0)
  else none

/-- An index that fits 32 bits, spelled without sign, fraction or exponent. -/
def index? : Json → Option UInt32
  | .number spelling => do
    let n ← digitsValue? spelling
    if n < UInt32.size then some (UInt32.ofNat n) else none
  | _ => none

/-- A list, item by item. -/
def list? {α : Type} (read : Json → Option α) : Json → Option (List α)
  | .array items => items.mapM read
  | _ => none

/-- A value that may be `null`. -/
def optional? {α : Type} (read : Json → Option α) : Json → Option (Option α)
  | .null => some none
  | v => (read v).map some

/-- One of several words: alone, or as the only key of an object that says `null` about it. -/
def word? {α : Type} (words : List (String × α)) : Json → Option α
  | .string (some s) => words.lookup s
  | .object [(some s, .null)] => words.lookup s
  | _ => none

end Bindery.Json
