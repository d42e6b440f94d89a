set_option autoImplicit false

/-!
# Numbers: the exact value behind a double

Every finite double is `± mantissa · 2 ^ exponent` for two integers.  `Dyadic.ofFloat?` reads
that form off the bits, and `Dyadic.toFloat` goes back, rounding to the nearest double with ties
to the even mantissa.  Operations whose exact result is easy to state on integers -- the remainder
of a division, the length of a hypotenuse, the integer part -- are computed here on the integers
and rounded once.
-/

namespace Scriptlet

/-- The number `± mantissa · 2 ^ exponent`. -/
structure Dyadic where
  negative : Bool
  mantissa : Nat
  exponent : Int
  deriving DecidableEq, Repr

namespace Dyadic

/-- The exact value of a finite double; an infinity and a NaN have none. -/
def ofFloat? (x : Float) : Option Dyadic :=
  let bits := x.toBits.toNat
  let biased : Nat := bits / Nat.pow 2 52 % Nat.pow 2 11
  let fraction : Nat := bits % Nat.pow 2 52
  let negative := decide (Nat.pow 2 63 ≤ bits)
  if biased = 2047 then none
  else if biased = 0 then some ⟨negative, fraction, -1074⟩
  else some ⟨negative, Nat.pow 2 52 + fraction, (biased : Int) - 1075⟩

/-- The mantissa counted in units of `2 ^ unit`, for a `unit` not above the exponent. -/
def scaledTo (d : Dyadic) (unit : Int) : Nat :=
  d.mantissa * Nat.pow 2 (d.exponent - unit).toNat

/-- The quotient `n / 2 ^ k` rounded to the nearest integer, a half to the even neighbour. -/
def roundHalfEven (n k : Nat) : Nat :=
  let divisor := Nat.pow 2 k
  let quotient := n / divisor
  let rest := 2 * (n % divisor)
  if divisor < rest ∨ (rest = divisor ∧ quotient % 2 = 1) then quotient + 1 else quotient

/-- The bits of the double nearest to `mantissa · 2 ^ exponent`.  The exponent field and the
fraction are added rather than joined: a mantissa that rounds up to `2 ^ 53` then carries into the
exponent, and one below `2 ^ 52` gives a subnormal. -/
def magnitudeBits (mantissa : Nat) (exponent : Int) : Nat :=
  if mantissa = 0 then 0
  else
    let unit := max ((mantissa.log2 : Int) + exponent - 52) (-1074)
    let rounded :=
      if unit ≤ exponent then mantissa * Nat.pow 2 (exponent - unit).toNat
      else roundHalfEven mantissa (unit - exponent).toNat
    min ((unit + 1074).toNat * Nat.pow 2 52 + rounded) (2047 * Nat.pow 2 52)

/-- The double nearest to the number; beyond the largest double, an infinity. -/
def toFloat (d : Dyadic) : Float :=
  Float.ofBits
    (UInt64.ofNat ((if d.negative then Nat.pow 2 63 else 0) + magnitudeBits d.mantissa d.exponent))

/-- The absolute value without its fraction. -/
def wholePart (d : Dyadic) : Nat :=
  if 0 ≤ d.exponent then d.mantissa * Nat.pow 2 d.exponent.toNat
  else d.mantissa / Nat.pow 2 (-d.exponent).toNat

/-- Whether the fraction is zero. -/
def isWhole (d : Dyadic) : Bool :=
  decide (0 ≤ d.exponent) || d.mantissa % Nat.pow 2 (-d.exponent).toNat == 0

end Dyadic

/-- The largest `r` with `r * r ≤ n`: the root of a quarter of `n`, doubled, and one more where
that still fits. -/
def floorSqrt (n : Nat) : Nat :=
  if n = 0 then 0
  else
    let root := 2 * floorSqrt (n / 4)
    if (root + 1) * (root + 1) ≤ n then root + 1 else root
termination_by n
decreasing_by omega

end Scriptlet
