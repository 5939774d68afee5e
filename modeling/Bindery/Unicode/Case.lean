import Bindery.Unicode.Class
import Bindery.Unicode.Lowercase
import Bindery.Unicode.Uppercase

/-!
# Case mappings

Full case mappings of characters and texts.  A character may become several (`ß` becomes `SS`).
Lowering a text looks at context once: a capital sigma that ends a word becomes `ς`, any other
one `σ`.
-/

namespace Bindery.Unicode

/-- The image of a code point under a table of runs. -/
def runImage? (runs : List (Nat × Nat × Nat × Nat)) (n : Nat) : Option Nat :=
  (runs.find? fun (first, last, step, _) =>
    first ≤ n && n ≤ last && (n - first) % step == 0).map fun (first, _, _, image) =>
      image + (n - first)

/-- The image of a character above ASCII under a mapping given by its runs and expansions. -/
def mapped (runs : List (Nat × Nat × Nat × Nat)) (expansions : List (Nat × List Nat)) (c : Char) :
    List Char :=
  match expansions.lookup c.toNat with
  | some image => image.map Char.ofNat
  | none => [(runImage? runs c.toNat).elim c Char.ofNat]

/-- The upper-case form of a character. -/
def upper (c : Char) : List Char :=
  if c.toNat < 0x80 then [c.toUpper] else mapped uppercaseRuns uppercaseExpansions c

/-- The lower-case form of a character that stands alone. -/
def lower (c : Char) : List Char :=
  if c.toNat < 0x80 then [c.toLower] else mapped lowercaseRuns lowercaseExpansions c

/-- The upper-case form of a text. -/
def upperText (s : String) : String :=
  String.ofList (s.toList.flatMap upper)

/-- Whether the nearest character that is not case-ignorable is cased. -/
def meetsCased (cs : List Char) : Bool :=
  match cs.dropWhile isCaseIgnorable with
  | c :: _ => isCased c
  | [] => false

/-- The lower-case form of the characters `cs` that stand after the characters `before`, the
nearest of which comes first. -/
def lowerAfter (before : List Char) : List Char → List Char
  | [] => []
  | c :: cs =>
    (if c = 'Σ' then [if meetsCased before && !meetsCased cs then 'ς' else 'σ'] else lower c)
      ++ lowerAfter (c :: before) cs

/-- The lower-case form of a text. -/
def lowerText (s : String) : String :=
  String.ofList (lowerAfter [] s.toList)

end Bindery.Unicode
