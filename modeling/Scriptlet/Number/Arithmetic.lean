import Scriptlet.Number.Dyadic
set_option autoImplicit false

/-!
# Numbers: operations on doubles

The operations of the language that the arithmetic of doubles does not already give.  The
remainder and the hypotenuse are exact on integers and rounded once; the factorial multiplies in
doubles from two upwards, so its rounding follows the order of the factors.
-/

namespace Scriptlet.Number

/-- The result of an operation without an answer. -/
def undefined : Float := 0.0 / 0.0

/-- The remainder of a division whose quotient is cut towards zero.  It has the sign of the
dividend, and an infinite divisor leaves the dividend as it is. -/
def remainder (x y : Float) : Float :=
  match Dyadic.ofFloat? x, Dyadic.ofFloat? y with
  | some a, some b =>
    if b.mantissa = 0 then undefined
    else
      let unit := min a.exponent b.exponent
      Dyadic.toFloat ⟨a.negative, a.scaledTo unit % b.scaledTo unit, unit⟩
  | some _, none => if y.isNaN then undefined else x
  | none, _ => undefined

/-- The length of the hypotenuse over the legs `x` and `y`, correctly rounded.  The sum of the
squares is widened to at least 128 bits before the root is taken, and a nonzero rest sets one more
low bit, so that rounding sees on which side of a tie the exact root lies. -/
def hypotenuse (x y : Float) : Float :=
  match Dyadic.ofFloat? x, Dyadic.ofFloat? y with
  | some a, some b =>
    let unit := min a.exponent b.exponent
    let square := a.scaledTo unit * a.scaledTo unit + b.scaledTo unit * b.scaledTo unit
    let widened := square * Nat.pow 2 128
    let root := floorSqrt widened
    let rest := if root * root = widened then 0 else 1
    Dyadic.toFloat ⟨false, 2 * root + rest, unit - 65⟩
  | _, _ => if x.isInf || y.isInf then 1.0 / 0.0 else undefined

/-- One with the sign of `x`; zero and NaN stay as they are. -/
def signum (x : Float) : Float :=
  if x == 0.0 || x.isNaN then x else if x < 0.0 then -1.0 else 1.0

/-- The integer part of `x` as a 64-bit integer, at the nearer bound where it does not fit; NaN
gives zero. -/
def truncate (x : Float) : Int64 :=
  match Dyadic.ofFloat? x with
  | some d =>
    if d.negative then Int64.ofInt (max (-(d.wholePart : Int)) Int64.minValue.toInt)
    else Int64.ofInt (min (d.wholePart : Int) Int64.maxValue.toInt)
  | none => if x.isNaN then 0 else if x < 0.0 then Int64.minValue else Int64.maxValue

/-- The natural number that `x` is, if it is one and not above `limit`. -/
def natural? (limit : Nat) (x : Float) : Option Nat :=
  match Dyadic.ofFloat? x with
  | none => none
  | some d =>
    if d.isWhole ∧ (d.negative = false ∨ d.mantissa = 0) ∧ d.wholePart ≤ limit then
      some d.wholePart
    else none

/-- Whole numbers whose factorial is finite in double precision end here. -/
def factorialLimit : Nat := 170

/-- The product `acc · k · (k + 1) · …` of `n` further factors, multiplied from the left.  Once it is
infinite, positive factors do not change it any more. -/
def risingProduct (acc : Float) (k : Nat) : Nat → Float
  | 0 => acc
  | n + 1 => if acc.isInf then acc else risingProduct (acc * Float.ofNat k) (k + 1) n

/-- The factorial `2 · 3 · … · n`, multiplied from the left. -/
def factorial (n : Nat) : Float := risingProduct 1.0 2 (n - 1)

/-- The number of `k`-element subsets of `n` things; none when `k` is above `n`. -/
def binomial (n k : Nat) : Float :=
  if n < k then 0.0 else factorial n / (factorial k * factorial (n - k))

/-- The power `base ^ exponent` by repeated squaring, with the factors taken from the lowest bit of
the exponent up: `acc` holds the product so far. -/
def squaringPower {α : Type} [Mul α] (acc base : α) (exponent : Nat) : α :=
  let acc := if exponent % 2 = 1 then acc * base else acc
  if exponent < 2 then acc else squaringPower acc (base * base) (exponent / 2)
termination_by exponent
decreasing_by omega

/-- The power of ten that scales the digits after the point of a number literal.  A negative
exponent gives the inverse of a power. -/
def powerOfTen (k : Int32) : Float :=
  let power := squaringPower 1.0 10.0 k.toInt.natAbs
  if k < 0 then 1.0 / power else power

end Scriptlet.Number
