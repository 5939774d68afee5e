/-!
# JSON values

A JSON value as it was written: members keep their order and may repeat, and a number is its
spelling, because `2`, `2.0` and `-0` are different to a reader that asks for an index.

A string may fail to denote text.  An escape such as `\ud800` names half of a surrogate pair, and
standing alone it denotes no character; the string that holds it is still a JSON string and is
fine wherever nobody reads it.  Such a string is `none`.
-/

namespace Bindery

/-- A JSON value. -/
inductive Json where
  | null
  | bool (value : Bool)
  /-- A number as it is spelled. -/
  | number (spelling : String)
  /-- A string, `none` if it denotes no text. -/
  | string (text : Option String)
  | array (items : List Json)
  | object (members : List (Option String × Json))
deriving Inhabited

namespace Json

/-- A text as a JSON value. -/
def text (s : String) : Json :=
  .string (some s)

/-- A natural number as a JSON value. -/
def nat (n : Nat) : Json :=
  .number (toString n)

/-- An object with these members in this order. -/
def record (members : List (String × Json)) : Json :=
  .object (members.map fun (key, value) => (some key, value))

/-- A list of texts as a JSON value. -/
def texts (ss : List String) : Json :=
  .array (ss.map text)

/-- A value that may be missing, `null` if it is. -/
def nullable {α : Type} (write : α → Json) (value : Option α) : Json :=
  value.elim .null write

end Json

end Bindery
