import Scriptlet.Number.Shortest
import Scriptlet.Number.Arithmetic
set_option autoImplicit false

/-!
# Numbers: their text

A number is written with the fewest digits that read back, in positional notation however large or
small it is, without a point when it is whole.  A zero keeps its sign.
-/

namespace Scriptlet

/-- The decimal in positional notation. -/
def Decimal.positional (d : Decimal) : String :=
  let digits := d.digits.repr
  let count := digits.length
  if d.point ≤ 0 then
    "0." ++ String.ofList (List.replicate (-d.point).toNat '0') ++ digits
  else if count ≤ d.point.toNat then
    digits ++ String.ofList (List.replicate (d.point.toNat - count) '0')
  else
    String.ofList (digits.toList.take d.point.toNat) ++ "." ++
      String.ofList (digits.toList.drop d.point.toNat)

/-- The text of a number. -/
def Number.text (x : Float) : String :=
  match Dyadic.ofFloat? x with
  | none => if x.isNaN then "NaN" else if x < 0.0 then "-inf" else "inf"
  | some d =>
    (if d.negative then "-" else "") ++
      (if d.mantissa = 0 then "0" else (Decimal.shortest d).positional)

end Scriptlet
