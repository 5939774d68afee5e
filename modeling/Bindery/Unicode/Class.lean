import Bindery.Unicode.Alphabetic
import Bindery.Unicode.Cased
import Bindery.Unicode.CaseIgnorable
import Bindery.Unicode.DefaultIgnorable
import Bindery.Unicode.GraphemeExtend
import Bindery.Unicode.Numeric
import Bindery.Unicode.Unprintable

/-!
# Character classes

The classes of characters that names, type tokens and quoted text are cut by.  ASCII is decided
by plain comparisons, so that facts about ASCII text never unfold a table; everything above it is
looked up in the range tables of this folder.

`Bindery.Unicode.isWhiteSpace` is the class that separates words everywhere in the generator:
type tokens, qualifiers of a signature, initializers.  It is wider than the blanks of JSON and
TOML, whose readers have blanks of their own.
-/

namespace Bindery.Unicode

/-- Whether a code point lies in one of the inclusive ranges. -/
def inRanges (ranges : List (Nat × Nat)) (n : Nat) : Bool :=
  ranges.any fun r => r.1 ≤ n && n ≤ r.2

/-- The blanks above ASCII, as inclusive ranges. -/
def wideBlankRanges : List (Nat × Nat) := [
  (0x85, 0x85), (0xa0, 0xa0), (0x1680, 0x1680), (0x2000, 0x200a), (0x2028, 0x2029),
  (0x202f, 0x202f), (0x205f, 0x205f), (0x3000, 0x3000)]

/-- Whether a character separates words. -/
def isWhiteSpace (c : Char) : Bool :=
  if c.toNat < 0x80 then c = ' ' || (9 ≤ c.toNat && c.toNat ≤ 13)
  else inRanges wideBlankRanges c.toNat

/-- Whether a character is a letter or behaves as one. -/
def isAlphabetic (c : Char) : Bool :=
  if c.toNat < 0x80 then c.isAlpha else inRanges alphabeticRanges c.toNat

/-- Whether a character denotes a number: a digit, a fraction, a Roman numeral. -/
def isNumeric (c : Char) : Bool :=
  if c.toNat < 0x80 then c.isDigit else inRanges numericRanges c.toNat

/-- Whether a character is alphabetic or numeric. -/
def isAlphanumeric (c : Char) : Bool :=
  isAlphabetic c || isNumeric c

/-- Whether a character is a lower-case, upper-case or title-case letter. -/
def isCased (c : Char) : Bool :=
  if c.toNat < 0x80 then c.isAlpha else inRanges casedRanges c.toNat

/-- Whether a character is passed over when the case of its neighbours matters. -/
def isCaseIgnorable (c : Char) : Bool :=
  if c.toNat < 0x80 then [0x27, 0x2e, 0x3a, 0x5e, 0x60].contains c.toNat
  else inRanges caseIgnorableRanges c.toNat

/-- Whether a character extends the grapheme before it. -/
def isGraphemeExtend (c : Char) : Bool :=
  0x80 ≤ c.toNat && inRanges graphemeExtendRanges c.toNat

/-- Whether a character is one of the two halfwidth sound marks of katakana.  Of all characters
that extend a grapheme they alone are letters with a place of their own. -/
def isHalfwidthSoundMark (c : Char) : Bool :=
  0xff9e ≤ c.toNat && c.toNat ≤ 0xff9f

/-- Whether a display leaves a character out. -/
def isDefaultIgnorable (c : Char) : Bool :=
  0x80 ≤ c.toNat && inRanges defaultIgnorableRanges c.toNat

/-- Whether the general category of a character is one that can be printed. -/
def isPrintable (c : Char) : Bool :=
  if c.toNat < 0x80 then 0x20 ≤ c.toNat && c.toNat < 0x7f
  else !inRanges unprintableRanges c.toNat

/-- Whether a character shows as itself wherever it stands: it is printable, a display does not
leave it out, and it does not attach to the character before it. -/
def showsAlone (c : Char) : Bool :=
  isPrintable c && !isDefaultIgnorable c && (!isGraphemeExtend c || isHalfwidthSoundMark c)

/-- Whether a character is a decimal digit of ASCII. -/
def isDecimalDigit (c : Char) : Bool :=
  '0' ≤ c && c ≤ '9'

/-- Whether a character is an octal digit of ASCII. -/
def isOctalDigit (c : Char) : Bool :=
  '0' ≤ c && c ≤ '7'

/-- Whether a character is a hexadecimal digit of ASCII, in either case. -/
def isHexDigit (c : Char) : Bool :=
  isDecimalDigit c || ('a' ≤ c && c ≤ 'f') || ('A' ≤ c && c ≤ 'F')

/-- The value of a hexadecimal digit; any other character counts as zero. -/
def hexDigitValue (c : Char) : Nat :=
  if isDecimalDigit c then c.toNat - '0'.toNat
  else if 'a' ≤ c && c ≤ 'f' then c.toNat - 'a'.toNat + 10
  else if 'A' ≤ c && c ≤ 'F' then c.toNat - 'A'.toNat + 10
  else 0

/-- The number that hexadecimal digits spell, most significant first. -/
def hexValue (digits : List Char) : Nat :=
  digits.foldl (fun n c => 16 * n + hexDigitValue c) 0

/-- The number that decimal digits spell, most significant first. -/
def decimalValue (digits : List Char) : Nat :=
  digits.foldl (fun n c => 10 * n + (c.toNat - '0'.toNat)) 0

end Bindery.Unicode
