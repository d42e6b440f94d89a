import Scriptlet.Text.CodePoints
set_option autoImplicit false

/-!
# Text: white space

The characters with the Unicode property `White_Space`, and the removal of them from the ends of a
text.
-/

namespace Scriptlet

/-- White space beyond ASCII. -/
def blankSet : CodePoints where
  ranges := [
    (0x85, 0x85), (0xa0, 0xa0), (0x1680, 0x1680), (0x2000, 0x200a), (0x2028, 0x2029),
    (0x202f, 0x202f), (0x205f, 0x205f), (0x3000, 0x3000)]

/-- Whether the character is white space. -/
def isBlank (c : Char) : Bool :=
  if c.toNat < 128 then c == ' ' || (9 ≤ c.toNat && c.toNat ≤ 13) else blankSet.contains c

/-- The text without the trailing characters of a class. -/
def dropTrailing (drop : Char → Bool) (text : List Char) : List Char :=
  (text.reverse.dropWhile drop).reverse

theorem dropTrailing_append {drop : Char → Bool} {tail : List Char}
    (dropped : ∀ c ∈ tail, drop c = true) (text : List Char) :
    dropTrailing drop (text ++ tail) = dropTrailing drop text := by
  have all : ∀ c ∈ tail.reverse, drop c = true :=
    fun c member => dropped c (List.mem_reverse.mp member)
  rw [dropTrailing, List.reverse_append, List.dropWhile_append_of_pos all, dropTrailing]

/-- What is kept is the text up to its last character outside the class. -/
theorem dropTrailing_eq_iff {drop : Char → Bool} {text kept : List Char} :
    dropTrailing drop text = kept ↔ ∃ dropped, text = kept ++ dropped ∧
      (∀ c ∈ dropped, drop c = true) ∧ ∀ c ∈ kept.getLast?, drop c = false := by
  constructor
  · rintro rfl
    refine ⟨(text.reverse.takeWhile drop).reverse, ?_, fun c dropped => ?_, fun c last => ?_⟩
    · rw [dropTrailing, ← List.reverse_append, List.takeWhile_append_dropWhile, List.reverse_reverse]
    · exact List.all_eq_true.mp List.all_takeWhile c (List.mem_reverse.mp dropped)
    · rw [dropTrailing, List.getLast?_reverse] at last
      have outside := List.head?_dropWhile_not drop text.reverse
      rw [last] at outside
      exact outside
  · rintro ⟨dropped, rfl, inside, outside⟩
    rw [dropTrailing_append inside, dropTrailing]
    -- The first character from behind that is not dropped ends the removal.
    cases backwards : kept.reverse with
    | nil => exact (List.reverse_eq_nil_iff.mp backwards).symm
    | cons c rest =>
      have last : kept.getLast? = some c := by rw [← List.head?_reverse, backwards]; rfl
      rw [List.dropWhile_cons_of_neg (by rw [outside c last]; exact Bool.false_ne_true),
        ← backwards, List.reverse_reverse]

/-- The text without white space at either end. -/
def trimBlank (text : List Char) : List Char :=
  dropTrailing isBlank (text.dropWhile isBlank)

end Scriptlet
