set_option autoImplicit false

/-!
# Text: lines

A text is cut after each line feed, which stays with its line; what follows the last line feed is a
line of its own unless it is empty.  The same cut works on characters and on bytes.
-/

namespace Scriptlet

/-- The pieces of a list cut after each element for which `ends` holds. -/
def splitAfter {α : Type} (ends : α → Bool) : List α → List (List α)
  | [] => []
  | a :: rest =>
    if ends a then [a] :: splitAfter ends rest
    else
      match splitAfter ends rest with
      | [] => [[a]]
      | piece :: pieces => (a :: piece) :: pieces

/-- Nothing is lost or moved by cutting. -/
theorem flatten_splitAfter {α : Type} (ends : α → Bool) (items : List α) :
    (splitAfter ends items).flatten = items := by
  induction items with
  | nil => rfl
  | cons a rest ih =>
    unfold splitAfter
    split
    · simp [ih]
    · split <;> simp_all

/-- The lines of a text, each with its line feed. -/
def textLines (text : String) : List String :=
  (splitAfter (· == '\n') text.toList).map String.ofList

end Scriptlet
