import Bindery.Toml.Basic
import Bindery.Unicode.Class

/-!
# TOML dates and times

A date, a time, or a date with a time and perhaps an offset.  The fields are checked against the
calendar.  The normal form separates date and time by `T`, keeps nine digits of a second at most
and none that are zero at the end, and writes the offset zero of `z` as `Z`.
-/

namespace Bindery.Toml

open Unicode

/-- The number that the first `count` characters spell, all of them digits, and the rest. -/
def fixedDigits? (count : Nat) (cs : List Char) : Option (Nat × List Char) :=
  let ds := cs.take count
  if ds.length = count ∧ ds.all isDecimalDigit then some (decimalValue ds, cs.drop count)
  else none

/-- A number of two digits between bounds, and the rest. -/
def twoDigits? (low high : Nat) (cs : List Char) : Option (Nat × List Char) := do
  let (n, rest) ← fixedDigits? 2 cs
  if low ≤ n ∧ n ≤ high then some (n, rest) else none

/-- What follows a given character. -/
def afterChar? (c : Char) : List Char → Option (List Char)
  | d :: rest => if c = d then some rest else none
  | [] => none

/-- Whether a year has a leap day. -/
def isLeapYear (year : Nat) : Bool :=
  year % 4 = 0 && (year % 100 ≠ 0 || year % 400 = 0)

/-- Number of days of a month. -/
def daysIn (year month : Nat) : Nat :=
  if month = 2 then if isLeapYear year then 29 else 28
  else if month = 4 ∨ month = 6 ∨ month = 9 ∨ month = 11 then 30
  else 31

/-- A number with zeros in front up to a width. -/
def padded (width n : Nat) : String :=
  let s := toString n
  String.ofList (List.replicate (width - s.length) '0') ++ s

/-- The date at the front, in normal form. -/
def date? (cs : List Char) : Option (String × List Char) := do
  let (year, cs) ← fixedDigits? 4 cs
  let cs ← afterChar? '-' cs
  let (month, cs) ← twoDigits? 1 12 cs
  let cs ← afterChar? '-' cs
  let (day, cs) ← twoDigits? 1 (daysIn year month) cs
  return (padded 4 year ++ "-" ++ padded 2 month ++ "-" ++ padded 2 day, cs)

/-- A fraction of a second in normal form: empty if there is none or it is zero. -/
def secondFraction? : List Char → Option (String × List Char)
  | '.' :: cs =>
    match cs.span isDecimalDigit with
    | ([], _) => none
    | (ds, rest) =>
      let kept := ((ds.take 9).reverse.dropWhile (· = '0')).reverse
      some (if kept.isEmpty then "" else String.ofList ('.' :: kept), rest)
  | cs => some ("", cs)

/-- The time at the front, in normal form. -/
def time? (cs : List Char) : Option (String × List Char) := do
  let (hour, cs) ← twoDigits? 0 23 cs
  let cs ← afterChar? ':' cs
  let (minute, cs) ← twoDigits? 0 59 cs
  let cs ← afterChar? ':' cs
  let (second, cs) ← twoDigits? 0 60 cs
  let (fraction, cs) ← secondFraction? cs
  return (padded 2 hour ++ ":" ++ padded 2 minute ++ ":" ++ padded 2 second ++ fraction, cs)

/-- The offset at the front, in normal form. -/
def offset? : List Char → Option (String × List Char)
  | c :: cs =>
    if c = 'Z' || c = 'z' then some ("Z", cs)
    else if c = '+' || c = '-' then do
      let (hour, cs) ← twoDigits? 0 23 cs
      let cs ← afterChar? ':' cs
      let (minute, cs) ← twoDigits? 0 59 cs
      let sign := if c = '-' ∧ (hour, minute) ≠ (0, 0) then "-" else "+"
      return (sign ++ padded 2 hour ++ ":" ++ padded 2 minute, cs)
    else none
  | [] => none

/-- A time that belongs to a date, with its separator. -/
def timeOfDate? : List Char → Option (String × List Char)
  | c :: cs => if c = 'T' || c = 't' || c = ' ' then time? cs else none
  | [] => none

/-- The date, time or both at the front. -/
def datetime? (cs : List Char) : Option (Toml × List Char) :=
  match date? cs with
  | some (date, afterDate) =>
    match timeOfDate? afterDate with
    | some (time, afterTime) =>
      match offset? afterTime with
      | some (offset, rest) => some (.datetime (date ++ "T" ++ time ++ offset), rest)
      | none => some (.datetime (date ++ "T" ++ time), afterTime)
    | none => some (.datetime date, afterDate)
  | none => (time? cs).map fun (time, rest) => (.datetime time, rest)

end Bindery.Toml
