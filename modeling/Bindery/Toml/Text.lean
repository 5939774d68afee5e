import Bindery.Toml.Basic
import Bindery.Unicode.Class

/-!
# TOML strings and keys

The four kinds of string and the dotted keys.  Basic strings know escapes, literal ones do not;
each kind has a form of several lines, in which a line end directly after the opening quotes is
dropped, a line end is always one line feed, and up to two quotes may stand before the closing
three.

Every reader takes what it has read so far, in reverse, and the characters after that.
-/

namespace Bindery.Toml

open Unicode

/-- Whether a character may stand in a string of either kind, quotes and backslash aside. -/
def isStringChar (c : Char) : Bool :=
  isCommentChar c

/-- What an escape of one letter stands for. -/
def shortEscape? : Char → Option Char
  | 'b' => some '\x08'
  | 'f' => some '\x0c'
  | 'n' => some '\n'
  | 'r' => some '\r'
  | 't' => some '\t'
  | '\\' => some '\\'
  | '"' => some '"'
  | _ => none

/-- The character whose code point hexadecimal digits spell, if there is one. -/
def codePoint? (digits : List Char) : Option Char :=
  let n := hexValue digits
  if digits.all isHexDigit && decide n.isValidChar then some (Char.ofNat n) else none

/-- A basic string of one line after its opening quote. -/
def basicString? (before : List Char) : List Char → Option (String × List Char)
  | [] => none
  | '"' :: rest => some (String.ofList before.reverse, rest)
  | '\\' :: 'u' :: a :: b :: c :: d :: rest =>
    match codePoint? [a, b, c, d] with
    | some x => basicString? (x :: before) rest
    | none => none
  | '\\' :: 'U' :: a :: b :: c :: d :: e :: f :: g :: h :: rest =>
    match codePoint? [a, b, c, d, e, f, g, h] with
    | some x => basicString? (x :: before) rest
    | none => none
  | '\\' :: e :: rest =>
    match shortEscape? e with
    | some x => basicString? (x :: before) rest
    | none => none
  | c :: rest => if c ≠ '\\' ∧ isStringChar c then basicString? (c :: before) rest else none

/-- A literal string of one line after its opening quote. -/
def literalString? (before : List Char) : List Char → Option (String × List Char)
  | [] => none
  | '\'' :: rest => some (String.ofList before.reverse, rest)
  | c :: rest => if isStringChar c then literalString? (c :: before) rest else none

/-- What surrounds the characters of a basic string of several lines. -/
inductive LineFold where
  /-- Ordinary text. -/
  | text
  /-- After a backslash and blanks: the line has to end. -/
  | ending
  /-- After such a line end: blanks and further line ends are dropped. -/
  | dropping
deriving DecidableEq

/-- A basic string of several lines after its opening quotes. -/
def basicLines? (fold : LineFold) (before : List Char) : List Char → Option (String × List Char)
  | [] => none
  | '\r' :: '\n' :: rest =>
    if fold = .text then basicLines? .text ('\n' :: before) rest
    else basicLines? .dropping before rest
  | '"' :: '"' :: '"' :: '"' :: '"' :: rest =>
    if fold = .ending then none else some (String.ofList ('"' :: '"' :: before).reverse, rest)
  | '"' :: '"' :: '"' :: '"' :: rest =>
    if fold = .ending then none else some (String.ofList ('"' :: before).reverse, rest)
  | '"' :: '"' :: '"' :: rest =>
    if fold = .ending then none else some (String.ofList before.reverse, rest)
  | '\\' :: 'u' :: a :: b :: c :: d :: rest =>
    if fold = .ending then none
    else match codePoint? [a, b, c, d] with
      | some x => basicLines? .text (x :: before) rest
      | none => none
  | '\\' :: 'U' :: a :: b :: c :: d :: e :: f :: g :: h :: rest =>
    if fold = .ending then none
    else match codePoint? [a, b, c, d, e, f, g, h] with
      | some x => basicLines? .text (x :: before) rest
      | none => none
  | '\\' :: e :: rest =>
    if fold = .ending then none
    else match shortEscape? e with
      | some x => basicLines? .text (x :: before) rest
      | none =>
        if e = '\n' then basicLines? .dropping before rest
        else if isBlank e then basicLines? .ending before rest
        else if e = '\r' then
          match rest with
          | '\n' :: rest => basicLines? .dropping before rest
          | _ => none
        else none
  | c :: rest =>
    if c = '\n' then
      if fold = .text then basicLines? .text ('\n' :: before) rest
      else basicLines? .dropping before rest
    else if isBlank c && fold ≠ .text then basicLines? fold before rest
    else if fold ≠ .ending && c ≠ '\\' && isStringChar c then
      basicLines? .text (c :: before) rest
    else none

/-- A literal string of several lines after its opening quotes. -/
def literalLines? (before : List Char) : List Char → Option (String × List Char)
  | [] => none
  | '\r' :: '\n' :: rest => literalLines? ('\n' :: before) rest
  | '\'' :: '\'' :: '\'' :: '\'' :: '\'' :: rest =>
    some (String.ofList ('\'' :: '\'' :: before).reverse, rest)
  | '\'' :: '\'' :: '\'' :: '\'' :: rest => some (String.ofList ('\'' :: before).reverse, rest)
  | '\'' :: '\'' :: '\'' :: rest => some (String.ofList before.reverse, rest)
  | c :: rest =>
    if c = '\n' || isStringChar c then literalLines? (c :: before) rest else none

/-- The characters without a line end at the front. -/
def dropNewline (cs : List Char) : List Char :=
  (newline? cs).getD cs

/-- The string at the front, of whichever kind. -/
def string? : List Char → Option (String × List Char)
  | '"' :: '"' :: '"' :: rest => basicLines? .text [] (dropNewline rest)
  | '"' :: rest => basicString? [] rest
  | '\'' :: '\'' :: '\'' :: rest => literalLines? [] (dropNewline rest)
  | '\'' :: rest => literalString? [] rest
  | _ => none

/-! ## Keys -/

/-- Whether a character may stand in a key without quotes. -/
def isBareKeyChar (c : Char) : Bool :=
  c.isAlphanum || c = '-' || c = '_'

/-- One part of a key: a string of one line, or a bare word. -/
def keyPart? : List Char → Option (String × List Char)
  | '"' :: rest => basicString? [] rest
  | '\'' :: rest => literalString? [] rest
  | cs =>
    match cs.span isBareKeyChar with
    | ([], _) => none
    | (word, rest) => some (String.ofList word, rest)

/-- A key, its parts separated by dots and blanks.  `limit` is how many parts it may have. -/
def key? : (limit : Nat) → List Char → Option (List String × List Char)
  | 0, _ => none
  | limit + 1, cs =>
    match keyPart? (skipBlanks cs) with
    | none => none
    | some (part, rest) =>
      match skipBlanks rest with
      | '.' :: rest => (key? limit rest).map fun (parts, rest) => (part :: parts, rest)
      | rest => some ([part], rest)

end Bindery.Toml
