import Scriptlet.Number.Dyadic
set_option autoImplicit false

/-!
# Numbers: the fewest digits that read back

A finite double stands for every real that rounds to it.  Of the decimals in that interval the one
with the fewest digits is its text, and of several with that many digits the nearest to the exact
value.  All comparisons are between integers: the value and the ends of its interval are counted in
quarters of its last binary place, and a decimal of `n` digits is tested by cross-multiplication.
-/

namespace Scriptlet

/-- The decimal `0.d₁d₂… · 10 ^ point`, digits without trailing zeros. -/
structure Decimal where
  digits : Nat
  point : Int
  deriving DecidableEq, Repr

namespace Decimal

/-- The interval of reals that round to a double: its exact `value` and its two ends, all over the
common denominator `scale`.  The ends belong to it when `closed`. -/
structure Interval where
  low : Nat
  value : Nat
  high : Nat
  scale : Nat
  closed : Bool
  deriving Repr

/-- The interval of `mantissa · 2 ^ exponent`, in quarters of its last place.  Just above a power of
two the neighbour below is only half as far away. -/
def Interval.ofDyadic (d : Dyadic) : Interval :=
  let below := if d.mantissa = Nat.pow 2 52 ∧ -1074 < d.exponent then 1 else 2
  let factor := Nat.pow 2 (d.exponent - 2).toNat
  { low := (4 * d.mantissa - below) * factor
    value := 4 * d.mantissa * factor
    high := (4 * d.mantissa + 2) * factor
    scale := Nat.pow 2 (2 - d.exponent).toNat
    closed := d.mantissa % 2 == 0 }

/-- Whether `count · 10 ^ power` lies in the interval. -/
def Interval.covers (i : Interval) (count : Nat) (power : Int) : Bool :=
  let left := count * Nat.pow 10 power.toNat * i.scale
  let down := Nat.pow 10 (-power).toNat
  if i.closed then i.low * down ≤ left && left ≤ i.high * down
  else i.low * down < left && left < i.high * down

/-- The whole number of steps of size `10 ^ power` in the value, and whether the next step is at
least as near as the one below. -/
def Interval.steps (i : Interval) (power : Int) : Nat × Bool :=
  let num := i.value * Nat.pow 10 (-power).toNat
  let den := i.scale * Nat.pow 10 power.toNat
  (num / den, decide (den ≤ 2 * (num % den)))

/-- The number of decimal digits of `n`, zero having none. -/
def digitCount (n : Nat) : Nat :=
  if n = 0 then 0 else digitCount (n / 10) + 1
termination_by n
decreasing_by omega

/-- The least `p` with the value below `10 ^ p`: the place of the point before its first digit. -/
def Interval.point (i : Interval) : Int :=
  if i.scale ≤ i.value then digitCount (i.value / i.scale)
  else
    -- For a value below one, ask how often it can be multiplied by ten and stay below one.
    let guess := digitCount (i.scale / i.value)
    if i.value * Nat.pow 10 guess < i.scale then -(guess : Int) else 1 - (guess : Int)

/-- The decimal on the grid of `places` digits that is nearest to the value among those of its two
neighbours there that lie in the interval. -/
def Interval.onGrid (i : Interval) (places : Nat) : Option (Nat × Int) :=
  let power := i.point - places
  let (below, upper) := i.steps power
  let nearer := if upper then below + 1 else below
  let farther := if upper then below else below + 1
  if i.covers nearer power then some (nearer, power)
  else if i.covers farther power then some (farther, power)
  else none

/-- The first grid of `places`, `places + 1`, … digits with a decimal in the interval, for `more`
grids at most. -/
def Interval.search (i : Interval) (places : Nat) : Nat → Nat × Int
  | 0 => ((i.steps (i.point - places)).1, i.point - places)
  | more + 1 =>
    match i.onGrid places with
    | some hit => hit
    | none => i.search (places + 1) more

/-- The digits of `count · 10 ^ power`, trailing zeros dropped. -/
def ofCount (count : Nat) (power : Int) : Decimal :=
  if count ≠ 0 ∧ count % 10 = 0 then ofCount (count / 10) (power + 1)
  else ⟨count, power + digitCount count⟩
termination_by count
decreasing_by omega

/-- The shortest decimal that reads back as `mantissa · 2 ^ exponent`, the mantissa not zero.
Seventeen digits tell any two doubles apart. -/
def shortest (d : Dyadic) : Decimal :=
  let hit := (Interval.ofDyadic d).search 1 17
  ofCount hit.1 hit.2

end Decimal

end Scriptlet
