import Bindery.Toml.Basic
import Bindery.Unicode.Class

/-!
# TOML numbers

Integers in four bases, within 64 bits, and floats.  Underscores may stand between two digits.  A
float is kept as it is spelled; all that is asked of its value is that it does not round to
positive infinity.
-/

namespace Bindery.Toml

open Unicode

/-- The digits after a first one, with underscores between two digits dropped. -/
def moreDigits (isDigit : Char → Bool) : List Char → List Char × List Char
  | [] => ([], [])
  | '_' :: d :: rest =>
    if isDigit d then
      let (ds, rest) := moreDigits isDigit rest
      (d :: ds, rest)
    else ([], '_' :: d :: rest)
  | d :: rest =>
    if isDigit d then
      let (ds, rest) := moreDigits isDigit rest
      (d :: ds, rest)
    else ([], d :: rest)

/-- At least one digit. -/
def digits? (isDigit : Char → Bool) : List Char → Option (List Char × List Char)
  | [] => none
  | d :: rest =>
    if isDigit d then
      let (ds, rest) := moreDigits isDigit rest
      some (d :: ds, rest)
    else none

/-- Digits of a decimal number: a zero stands alone. -/
def decimalDigits? : List Char → Option (List Char × List Char)
  | '0' :: rest => some (['0'], rest)
  | cs => digits? isDecimalDigit cs

/-- A sign, if there is one: whether it is a minus, and the rest. -/
def sign : List Char → Bool × List Char
  | '-' :: rest => (true, rest)
  | '+' :: rest => (false, rest)
  | cs => (false, cs)

/-! ## Integers -/

/-- A number as an integer of 64 bits, if it fits. -/
def fits64? (n : Int) : Option Int :=
  if Int64.minValue.toInt ≤ n ∧ n ≤ Int64.maxValue.toInt then some n else none

/-- An integer in a base that its marker has named. -/
def based? (base : Nat) (isDigit : Char → Bool) (cs : List Char) : Option (Toml × List Char) := do
  let (ds, rest) ← digits? isDigit cs
  let n ← fits64? (ds.foldl (fun n d => base * n + hexDigitValue d) 0 : Nat)
  return (.integer n, rest)

/-- The integer at the front. -/
def integer? : List Char → Option (Toml × List Char)
  | '0' :: 'x' :: rest => based? 16 isHexDigit rest
  | '0' :: 'o' :: rest => based? 8 isOctalDigit rest
  | '0' :: 'b' :: rest => based? 2 (fun c => c = '0' || c = '1') rest
  | cs => do
    let (negative, cs) := sign cs
    let (ds, rest) ← decimalDigits? cs
    let n ← fits64? (if negative then -(decimalValue ds : Int) else decimalValue ds)
    return (.integer n, rest)

/-! ## Floats -/

/-- The least number that rounds to infinity in 64 bits. -/
def infinityThreshold : Nat :=
  1 <<< 1024 - 1 <<< 970

/-- Whether `digits · 10 ^ exponent` rounds to infinity in 64 bits.  The count of digits decides
unless the number has 309 digits before its point. -/
def roundsToInfinity (digits : List Char) (exponent : Int) : Bool :=
  let significant := digits.dropWhile (· = '0')
  let magnitude := significant.length + exponent
  if significant.isEmpty || magnitude < 309 then false
  else if magnitude > 309 then true
  else infinityThreshold * Nat.pow 10 (-exponent).toNat ≤
      decimalValue significant * Nat.pow 10 exponent.toNat

/-- The fraction of a float. -/
def fraction? : List Char → Option (List Char × List Char)
  | '.' :: rest => digits? isDecimalDigit rest
  | _ => none

/-- The exponent of a float. -/
def exponent? : List Char → Option (Int × List Char)
  | e :: rest =>
    if e = 'e' || e = 'E' then do
      let (negative, rest) := sign rest
      let (ds, rest) ← digits? isDecimalDigit rest
      return (if negative then -(decimalValue ds : Int) else decimalValue ds, rest)
    else none
  | [] => none

/-- The characters that `rest`, a tail of `cs`, leaves of it. -/
def taken (cs rest : List Char) : String :=
  String.ofList (cs.take (cs.length - rest.length))

/-- The float at the front, spelled with digits: it has a fraction, an exponent or both. -/
def plainFloat? (cs : List Char) : Option (Toml × List Char) := do
  let (negative, afterSign) := sign cs
  let (whole, afterWhole) ← decimalDigits? afterSign
  let (fraction, exponent, rest) ←
    match fraction? afterWhole with
    | some (fraction, afterFraction) =>
      match exponent? afterFraction with
      | some (exponent, rest) => some (fraction, exponent, rest)
      | none => some (fraction, 0, afterFraction)
    | none => (exponent? afterWhole).map fun (exponent, rest) => ([], exponent, rest)
  if !negative && roundsToInfinity (whole ++ fraction) (exponent - fraction.length) then none
  else some (.float (taken cs rest), rest)

/-- An infinity or an undefined number at the front. -/
def namedFloat? (cs : List Char) : Option (Toml × List Char) :=
  match (sign cs).2 with
  | 'i' :: 'n' :: 'f' :: rest => some (.float (taken cs rest), rest)
  | 'n' :: 'a' :: 'n' :: rest => some (.float (taken cs rest), rest)
  | _ => none

/-- The float at the front. -/
def float? (cs : List Char) : Option (Toml × List Char) :=
  (plainFloat? cs).orElse fun _ => namedFloat? cs

end Bindery.Toml
