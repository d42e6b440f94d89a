set_option autoImplicit false

/-!
# Scanning: the place in the text

A cursor is a place in a text: how many characters lie before it, and those that lie ahead.  Every
reader takes a cursor and gives back one further on.
-/

namespace Scriptlet

/-- A place in a text. -/
structure Cursor where
  pos : Nat
  ahead : List Char
  deriving DecidableEq, Repr

namespace Cursor

/-- The place after the first `start` characters of a text, or its end. -/
def ofText (text : List Char) (start : Nat) : Cursor :=
  ⟨min start text.length, text.drop start⟩

/-- The place `n` characters further on. -/
def advance (c : Cursor) (n : Nat) : Cursor := ⟨c.pos + n, c.ahead.drop n⟩

theorem advance_shorter {c : Cursor} {n : Nat} (some_ahead : c.ahead ≠ []) (step : 0 < n) :
    (c.advance n).ahead.length < c.ahead.length := by
  have := List.length_pos_iff.mpr some_ahead
  simp only [advance, List.length_drop]
  omega

end Cursor

end Scriptlet
