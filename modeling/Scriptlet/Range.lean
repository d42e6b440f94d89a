set_option autoImplicit false

/-!
# Ranges

A range starts at `start` and advances by `step` while it is below `stop`, in 64-bit integers; it
also ends where the next item would not fit in 64 bits.  The direction of the step is not checked:
with a step of zero, and a start below the stop, a range has no end.
-/

namespace Scriptlet

/-- An arithmetic progression of 64-bit integers. -/
structure Range where
  start : Int64
  step : Int64
  stop : Int64
  deriving DecidableEq, Repr

/-- The sum of two 64-bit integers, if it fits. -/
def checkedAdd (a b : Int64) : Option Int64 :=
  let sum := a.toInt + b.toInt
  if Int64.minValue.toInt ≤ sum ∧ sum ≤ Int64.maxValue.toInt then some (Int64.ofInt sum) else none

namespace Range

/-- At most `n` items from the position `current` on, where `none` is past the end of the 64-bit
integers. -/
def itemsFrom (r : Range) : Nat → Option Int64 → List Int64
  | 0, _ => []
  | _ + 1, none => []
  | n + 1, some current =>
    if current < r.stop then current :: r.itemsFrom n (checkedAdd current r.step) else []

/-- The first `n` items, or all when there are fewer. -/
def take (r : Range) (n : Nat) : List Int64 := r.itemsFrom n (some r.start)

/-- How many items the range has; none when it has no end.  An ascending range stops at its stop, a
descending one at the least 64-bit integer. -/
def length? (r : Range) : Option Nat :=
  let start := r.start.toInt
  let stop := r.stop.toInt
  let step := r.step.toInt
  if stop ≤ start then some 0
  else if 0 < step then some (((stop - start - 1) / step).toNat + 1)
  else if step < 0 then some (((start - Int64.minValue.toInt) / (-step)).toNat + 1)
  else none

/-- All items of a range that has an end. -/
def toList? (r : Range) : Option (List Int64) := r.length?.map r.take

/-- The text of a range. -/
def text (r : Range) : String :=
  "range(" ++ r.start.toInt.repr ++ ", " ++ r.step.toInt.repr ++ ", " ++ r.stop.toInt.repr ++ ")"

end Range

end Scriptlet
