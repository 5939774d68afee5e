import Bindery.Text.Basic

/-!
# Type tokens

A raw type token such as `const QString &`, split into its base and its qualifiers.  Marks inside
template brackets belong to the base: `QList<QWidget *>` has no pointer.  A closing bracket too
many is ignored, an opening one that is never closed hides all marks after it.
-/

namespace Bindery

/-- A type token: base name and qualifiers.  `&&` counts as two references. -/
structure TypeToken where
  base : String
  isConst : Bool
  pointers : Nat
  references : Nat
deriving DecidableEq, Repr

namespace TypeToken

/-- A token's characters with a blank for each mark outside brackets, and how many marks of either
kind there were. -/
structure Unmarked where
  chars : List Char
  pointers : Nat
  references : Nat

/-- The characters without the marks outside brackets; `depth` brackets are open. -/
def unmark (depth : Nat) : List Char → Unmarked
  | [] => ⟨[], 0, 0⟩
  | c :: cs =>
    if c = '<' then
      let rest := unmark (depth + 1) cs
      { rest with chars := c :: rest.chars }
    else if c = '>' then
      let rest := unmark (depth - 1) cs
      { rest with chars := c :: rest.chars }
    else if c = '*' ∧ depth = 0 then
      let rest := unmark depth cs
      { rest with chars := ' ' :: rest.chars, pointers := rest.pointers + 1 }
    else if c = '&' ∧ depth = 0 then
      let rest := unmark depth cs
      { rest with chars := ' ' :: rest.chars, references := rest.references + 1 }
    else
      let rest := unmark depth cs
      { rest with chars := c :: rest.chars }

/-- The token that a text spells. -/
def parse (s : String) : TypeToken :=
  let unmarked := unmark 0 s.toList
  let words := (Text.wordsChars unmarked.chars).map String.ofList
  { base := " ".intercalate (words.filter (· ≠ "const"))
    isConst := words.contains "const"
    pointers := unmarked.pointers
    references := unmarked.references }

/-- Whether values are passed as they are: the callee gets a copy or a constant reference. -/
def isValueLike (t : TypeToken) : Bool :=
  t.pointers == 0 && (t.references == 0 || (t.references == 1 && t.isConst))

/-- The token with `concrete` in the place of its base, qualifiers of both taken together. -/
def substitute (t concrete : TypeToken) : TypeToken where
  base := concrete.base
  isConst := t.isConst || concrete.isConst
  pointers := t.pointers + concrete.pointers
  references := t.references + concrete.references

end TypeToken

end Bindery
