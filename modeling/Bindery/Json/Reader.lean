import Bindery.Json.Token

/-!
# Reading JSON

From tokens to a value.  The reader is a machine that takes one token per step: its phase says
what may come next in the innermost container, and its stack holds the containers around that one,
each as far as it was read when the value inside it began.  So the depth of a text costs no
recursion, and a value is read by a single fold over its tokens.
-/

namespace Bindery.Json

/-- A container that waits for a value.  What it already holds is kept in reverse. -/
inductive Waiting where
  | array (before : List Json)
  | object (before : List (Option String × Json)) (key : Option String)

/-- What may come next. -/
inductive Phase where
  /-- A value. -/
  | value
  /-- The first item of an array, or its end. -/
  | firstItem
  /-- A comma or the end of an array. -/
  | afterItem (before : List Json)
  /-- The first key of an object, or its end. -/
  | firstKey
  /-- A further key of an object. -/
  | nextKey (before : List (Option String × Json))
  /-- The colon after a key. -/
  | colon (before : List (Option String × Json)) (key : Option String)
  /-- A comma or the end of an object. -/
  | afterMember (before : List (Option String × Json))
  /-- Nothing: the whole text is read. -/
  | done (value : Json)

/-- The reading of a text so far. -/
structure ReadState where
  phase : Phase
  stack : List Waiting

/-- The state after a whole value, given the containers around it. -/
def ReadState.completed (v : Json) : List Waiting → ReadState
  | [] => ⟨.done v, []⟩
  | .array before :: stack => ⟨.afterItem (v :: before), stack⟩
  | .object before key :: stack => ⟨.afterMember ((key, v) :: before), stack⟩

/-- The state after the first token of a value, given the containers around it. -/
def ReadState.begun (stack : List Waiting) : JsonToken → Option ReadState
  | .null => some (.completed .null stack)
  | .bool b => some (.completed (.bool b) stack)
  | .number spelling => some (.completed (.number spelling) stack)
  | .string text => some (.completed (.string text) stack)
  | .openArray => some ⟨.firstItem, stack⟩
  | .openObject => some ⟨.firstKey, stack⟩
  | _ => none

/-- The state after one more token. -/
def ReadState.step (s : ReadState) (token : JsonToken) : Option ReadState :=
  match s.phase, token with
  | .value, token => ReadState.begun s.stack token
  | .firstItem, .closeArray => some (.completed (.array []) s.stack)
  | .firstItem, token => ReadState.begun (.array [] :: s.stack) token
  | .afterItem before, .comma => some ⟨.value, .array before :: s.stack⟩
  | .afterItem before, .closeArray => some (.completed (.array before.reverse) s.stack)
  | .firstKey, .closeObject => some (.completed (.object []) s.stack)
  | .firstKey, .string key => some ⟨.colon [] key, s.stack⟩
  | .nextKey before, .string key => some ⟨.colon before key, s.stack⟩
  | .colon before key, .colon => some ⟨.value, .object before key :: s.stack⟩
  | .afterMember before, .comma => some ⟨.nextKey before, s.stack⟩
  | .afterMember before, .closeObject => some (.completed (.object before.reverse) s.stack)
  | _, _ => none

/-- The value that the tokens spell. -/
def ofTokens? (tokens : List JsonToken) : Option Json :=
  match tokens.foldlM ReadState.step ⟨.value, []⟩ with
  | some ⟨.done v, _⟩ => some v
  | _ => none

/-- The value that a text spells. -/
def parse? (s : String) : Option Json :=
  (JsonToken.scan s.toList).bind ofTokens?

end Bindery.Json
