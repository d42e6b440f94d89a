import Scriptlet.Number.Arithmetic
set_option autoImplicit false

/-!
# Numbers: reading decimal text

Integers are a sign and decimal digits, in 64 bits.  Decimals are a sign, digits with at most one
point among or beside them, and an optional exponent; the nearest double is taken.  The words for
infinity and for no number are read in any case.
-/

namespace Scriptlet.Number

/-- The value of a run of decimal digits. -/
def digitsValue (digits : List Char) : Nat :=
  digits.foldl (fun acc c => 10 * acc + (c.toNat - '0'.toNat)) 0

/-- A leading sign, and the text after it. -/
def splitSign : List Char → Bool × List Char
  | '-' :: rest => (true, rest)
  | '+' :: rest => (false, rest)
  | text => (false, text)

/-- An optional sign and at least one decimal digit. -/
def readInteger? (text : List Char) : Option Int :=
  let (negative, digits) := splitSign text
  if digits.isEmpty || !digits.all Char.isDigit then none
  else if negative then some (-(digitsValue digits : Int))
  else some (digitsValue digits)

/-- An integer that fits in 64 bits. -/
def readInt64? (text : List Char) : Option Int64 :=
  match readInteger? text with
  | none => none
  | some n =>
    if Int64.minValue.toInt ≤ n ∧ n ≤ Int64.maxValue.toInt then some (Int64.ofInt n) else none

/-- The double nearest to `mantissa · 10 ^ exponent`.  A number of more than 310 digits before the
point is beyond the largest double, and one that starts 330 places after it below the smallest. -/
def scientific (mantissa : Nat) (exponent : Int) : Float :=
  let places := (mantissa.repr.length : Int) + exponent
  if mantissa = 0 ∨ places < -330 then 0.0
  else if 310 < places then 1.0 / 0.0
  else if exponent < 0 then Float.ofScientific mantissa true exponent.natAbs
  else Float.ofScientific mantissa false exponent.natAbs

/-- The exponent after the digits: nothing, or a mark and an integer. -/
def readExponent? : List Char → Option Int
  | [] => some 0
  | c :: rest => if c = 'e' ∨ c = 'E' then readInteger? rest else none

/-- A decimal without its sign. -/
def readMagnitude? (text : List Char) : Option Float :=
  let whole := text.takeWhile Char.isDigit
  let rest := text.dropWhile Char.isDigit
  let (fraction, rest) :=
    match rest with
    | '.' :: after => (after.takeWhile Char.isDigit, after.dropWhile Char.isDigit)
    | _ => ([], rest)
  if whole.isEmpty && fraction.isEmpty then none
  else
    match readExponent? rest with
    | none => none
    | some exponent =>
      some (scientific (digitsValue (whole ++ fraction)) (exponent - (fraction.length : Int)))

/-- The number a decimal text stands for. -/
def read? (text : List Char) : Option Float :=
  let (negative, magnitude) := splitSign text
  let lower := magnitude.map Char.toLower
  let value :=
    if lower = "inf".toList ∨ lower = "infinity".toList then some (1.0 / 0.0)
    else if lower = "nan".toList then some undefined
    else readMagnitude? magnitude
  value.map fun x => if negative then -x else x

end Scriptlet.Number
