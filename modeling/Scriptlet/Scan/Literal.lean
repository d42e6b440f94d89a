import Scriptlet.Fault
import Scriptlet.Scan.Cursor
set_option autoImplicit false

/-!
# Scanning: numbers, strings and operators

A number is the longest run of digits and points; its digits are folded in doubles, so long
literals round at every digit.  A string runs to the next quote of its kind.  An equals sign directly
after an operator joins it where the two make another operator.
-/

namespace Scriptlet

/-! ## Numbers -/

/-- The characters of a number literal. -/
def isNumberChar (c : Char) : Bool := c.isDigit || c == '.'

/-- The digits of a number literal folded from the left, in the arithmetic to which `number`
leads. -/
def foldDigits {α : Type} [Add α] [Mul α] (number : Nat → α) (digits : List Char) : α :=
  digits.foldl (fun acc c => acc * number 10 + number (c.toNat - '0'.toNat)) (number 0)

/-- The value of a number literal in doubles: its digits without the point, divided by the power of
ten that the digits after the point call for.  The exponent is a 32-bit integer. -/
def literalValue (run : List Char) : Float :=
  let digits := foldDigits Float.ofNat (run.filter Char.isDigit)
  if run.contains '.' then
    digits / Number.powerOfTen (Int32.ofNat ((run.dropWhile Char.isDigit).length - 1))
  else digits

/-- Reads a number: the longest run of digits and points, with at most one point and at least one
digit. -/
def readNumber (place : Cursor) : Except Fault (Float × Cursor) :=
  let run := place.ahead.takeWhile isNumberChar
  if 2 ≤ run.count '.' then .error (.twoPoints place.pos)
  else if run.all (· == '.') then .error (.noDigits place.pos)
  else .ok (literalValue run, place.advance run.length)

/-! ## Strings -/

/-- Reads a string: the characters up to the next quote of the same kind.  There are no escapes. -/
def readString (place : Cursor) (quote : Char) : Except Fault (String × Cursor) :=
  let inner := place.ahead.drop 1
  let text := inner.takeWhile (· != quote)
  match inner.dropWhile (· != quote) with
  | [] => .error (.openString place.pos quote)
  | _ :: rest => .ok (String.ofList text, ⟨place.pos + text.length + 2, rest⟩)

/-! ## Operators -/

/-- The operator a character starts, with its width: two when an equals sign belongs to it. -/
def operatorAt? (c : Char) (rest : List Char) : Option (Operator × Nat) :=
  let compound := rest.head? == some '='
  match c with
  | ',' | ';' => some (.separator, 1)
  | '=' => some (if compound then (.equal, 2) else (.declare, 1))
  | '+' => some (if compound then (.addTo, 2) else (.add, 1))
  | '-' => some (if compound then (.subTo, 2) else (.sub, 1))
  | '*' => some (if compound then (.mulTo, 2) else (.mul, 1))
  | '/' => some (if compound then (.divTo, 2) else (.div, 1))
  | '!' => if compound then some (.unequal, 2) else none
  | '^' => some (.pow, 1)
  | '%' => some (.rem, 1)
  | _ => none

/-! ## Progress -/

theorem readNumber_shorter {place after : Cursor} {c : Char} {rest : List Char} {n : Float}
    (ahead : place.ahead = c :: rest) (start : isNumberChar c = true)
    (read : readNumber place = .ok (n, after)) : after.ahead.length < place.ahead.length := by
  unfold readNumber at read
  simp only at read
  split at read
  · cases read
  · split at read
    · cases read
    · cases read
      exact Cursor.advance_shorter (by simp [ahead]) (by simp [ahead, start])

theorem readString_shorter {place after : Cursor} {quote c : Char} {rest : List Char} {s : String}
    (ahead : place.ahead = c :: rest) (read : readString place quote = .ok (s, after)) :
    after.ahead.length < place.ahead.length := by
  unfold readString at read
  simp only at read
  split at read
  · cases read
  · rename_i found
    cases read
    have shorter : ((place.ahead.drop 1).dropWhile (· != quote)).length ≤
        (place.ahead.drop 1).length := (List.dropWhile_suffix _).length_le
    rw [found, ahead] at shorter
    rw [ahead]
    simp only [List.drop_one, List.tail_cons, List.length_cons] at *
    omega

theorem operatorAt?_width {c : Char} {rest : List Char} {op : Operator} {width : Nat}
    (found : operatorAt? c rest = some (op, width)) : 0 < width := by
  unfold operatorAt? at found
  simp only at found
  split at found <;> (try split at found) <;> simp_all <;> omega

end Scriptlet
