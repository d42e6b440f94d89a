set_option autoImplicit false

/-!
# Text: sets of characters

A property of characters beyond ASCII is a list of ranges of code points, in ascending order and
without overlaps.
-/

namespace Scriptlet

/-- A set of characters as ranges of code points, both ends included. -/
structure CodePoints where
  ranges : List (Nat × Nat)

/-- Whether the character lies in one of the ranges. -/
def CodePoints.contains (set : CodePoints) (c : Char) : Bool :=
  set.ranges.any fun range => range.1 ≤ c.toNat && c.toNat ≤ range.2

end Scriptlet
