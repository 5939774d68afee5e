import Bindery.Json.Basic
import Bindery.Unicode.Class

/-!
# JSON tokens

Cutting a JSON text into punctuation and scalars.  The grammar is the strict one: blanks are
space, tab, line feed and carriage return; a number has no leading zero, no leading plus and a
digit on both sides of its point; a string holds no character below the space and no escape
outside the fixed list.

Strings are read with an accumulator that turns illegible (`none`) at the first escape that names
half of a surrogate pair alone.  Reading goes on to the end of the string, so that everything else
in it is still checked.
-/

namespace Bindery

open Unicode

/-- A token of a JSON text. -/
inductive JsonToken where
  | openArray
  | closeArray
  | openObject
  | closeObject
  | comma
  | colon
  | null
  | bool (value : Bool)
  | number (spelling : String)
  | string (text : Option String)
deriving DecidableEq, Repr

namespace JsonToken

/-- Whether a character may stand between tokens. -/
def isBlank (c : Char) : Bool :=
  c = ' ' || c = '\t' || c = '\n' || c = '\r'

/-! ## Numbers -/

/-- The digits at the front and the rest, if there is at least one digit. -/
def digits? (cs : List Char) : Option (List Char × List Char) :=
  match cs.span isDecimalDigit with
  | ([], _) => none
  | (ds, rest) => some (ds, rest)

/-- The whole part of a number: a zero alone, or digits that begin with another one. -/
def whole? : List Char → Option (List Char × List Char)
  | '0' :: rest => some (['0'], rest)
  | cs => digits? cs

/-- The fraction of a number, empty if there is none. -/
def fraction? : List Char → Option (List Char × List Char)
  | '.' :: rest => (digits? rest).map fun (ds, rest) => ('.' :: ds, rest)
  | cs => some ([], cs)

/-- The exponent of a number, empty if there is none. -/
def exponent? : List Char → Option (List Char × List Char)
  | e :: rest =>
    if e = 'e' || e = 'E' then
      match rest with
      | sign :: rest' =>
        if sign = '+' || sign = '-' then
          (digits? rest').map fun (ds, rest) => (e :: sign :: ds, rest)
        else (digits? rest).map fun (ds, rest) => (e :: ds, rest)
      | [] => none
    else some ([], e :: rest)
  | [] => some ([], [])

/-- The number at the front and the rest. -/
def number? (cs : List Char) : Option (String × List Char) := do
  let (sign, cs) := match cs with
    | '-' :: rest => (['-'], rest)
    | cs => ([], cs)
  let (whole, cs) ← whole? cs
  let (fraction, cs) ← fraction? cs
  let (exponent, cs) ← exponent? cs
  return (String.ofList (sign ++ whole ++ fraction ++ exponent), cs)

/-! ## Strings -/

/-- What an escape of one letter stands for. -/
def shortEscape? : Char → Option Char
  | '"' => some '"'
  | '\\' => some '\\'
  | '/' => some '/'
  | 'b' => some '\x08'
  | 'f' => some '\x0c'
  | 'n' => some '\n'
  | 'r' => some '\r'
  | 't' => some '\t'
  | _ => none

/-- Whether a code unit is the first half of a surrogate pair. -/
def isHighSurrogate (n : Nat) : Bool :=
  0xd800 ≤ n && n < 0xdc00

/-- Whether a code unit is the second half of a surrogate pair. -/
def isLowSurrogate (n : Nat) : Bool :=
  0xdc00 ≤ n && n < 0xe000

/-- The character that two halves of a surrogate pair name. -/
def pairedChar (high low : Nat) : Char :=
  Char.ofNat (0x10000 + (high - 0xd800) * 0x400 + (low - 0xdc00))

/-- A character added to what was read before, which is kept in reverse. -/
def extend (c : Char) (before : Option (List Char)) : Option (List Char) :=
  before.map (c :: ·)

/-- How far the reading of a string has come.  A first half of a surrogate pair is held back until
the next escape shows whether its other half follows. -/
structure StringState where
  /-- Characters read so far, the last one first; `none` once the string is illegible. -/
  before : Option (List Char)
  /-- The first half of a surrogate pair that was read last. -/
  half : Option Nat

/-- The state after a character that is no part of a surrogate pair. -/
def StringState.push (s : StringState) (c : Char) : StringState where
  before := if s.half.isSome then none else extend c s.before
  half := none

/-- The state after an escape with four hexadecimal digits. -/
def StringState.pushUnit (s : StringState) (n : Nat) : StringState :=
  match s.half with
  | some high =>
    if isLowSurrogate n then { before := extend (pairedChar high n) s.before, half := none }
    else { before := none, half := none }
  | none =>
    if isHighSurrogate n then { s with half := some n }
    else if isLowSurrogate n then { before := none, half := none }
    else s.push (Char.ofNat n)

/-- The text of a finished string. -/
def StringState.text (s : StringState) : Option String :=
  if s.half.isSome then none else s.before.map fun cs => String.ofList cs.reverse

/-- The rest of a string after its opening quote, and what follows the closing one. -/
def string? (s : StringState) : List Char → Option (Option String × List Char)
  | [] => none
  | '"' :: rest => some (s.text, rest)
  | '\\' :: 'u' :: a :: b :: c :: d :: rest =>
    if [a, b, c, d].all isHexDigit then string? (s.pushUnit (hexValue [a, b, c, d])) rest else none
  | '\\' :: e :: rest =>
    match shortEscape? e with
    | some c => string? (s.push c) rest
    | none => none
  | c :: rest => if c.toNat < 0x20 || c = '\\' then none else string? (s.push c) rest

/-! ## All tokens -/

/-- What follows `word` if the characters begin with it. -/
def afterWord? (word : List Char) (cs : List Char) : Option (List Char) :=
  if word.isPrefixOf cs then some (cs.drop word.length) else none

/-- The token that begins with a character, and the characters after it. -/
def next? (c : Char) (rest : List Char) : Option (JsonToken × List Char) :=
  match c with
  | '[' => some (.openArray, rest)
  | ']' => some (.closeArray, rest)
  | '\x7b' => some (.openObject, rest)
  | '\x7d' => some (.closeObject, rest)
  | ',' => some (.comma, rest)
  | ':' => some (.colon, rest)
  | '"' => (string? ⟨some [], none⟩ rest).map fun (text, rest) => (.string text, rest)
  | 'n' => (afterWord? ['u', 'l', 'l'] rest).map (.null, ·)
  | 't' => (afterWord? ['r', 'u', 'e'] rest).map (.bool true, ·)
  | 'f' => (afterWord? ['a', 'l', 's', 'e'] rest).map (.bool false, ·)
  | c => (number? (c :: rest)).map fun (spelling, rest) => (.number spelling, rest)

/-- The tokens of a text in addition to those already found, which are kept in reverse.  `fuel`
bounds the number of steps; a step takes at least one character. -/
def scanFrom (found : List JsonToken) : (fuel : Nat) → List Char → Option (List JsonToken)
  | _, [] => some found.reverse
  | 0, _ :: _ => none
  | fuel + 1, c :: rest =>
    if isBlank c then scanFrom found fuel rest
    else match next? c rest with
      | some (token, rest) => scanFrom (token :: found) fuel rest
      | none => none

/-- The tokens of a text. -/
def scan (cs : List Char) : Option (List JsonToken) :=
  scanFrom [] cs.length cs

end JsonToken

end Bindery
