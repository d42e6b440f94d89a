set_option autoImplicit false

/-!
# Scanning: blocks that are not run

A block behind a closed gate is passed over without being read: only braces and strings matter for
where it ends.
-/

namespace Scriptlet

/-- What matters while a block is passed over: how many braces are open, and which quote. -/
structure Passing where
  depth : Nat
  quote : Option Char
  deriving DecidableEq, Repr

namespace Passing

/-- Before the opening brace. -/
def start : Passing := ⟨0, none⟩

/-- Takes in one character.  Braces inside a string do not count. -/
def next (p : Passing) (c : Char) : Passing :=
  match p.quote with
  | some quote => if c = quote then { p with quote := none } else p
  | none =>
    if c = '"' ∨ c = '\'' then { p with quote := some c }
    else if c = '\x7b' then { p with depth := p.depth + 1 }
    else if c = '\x7d' then { p with depth := p.depth - 1 }
    else p

end Passing

/-- The number of characters up to and with the brace that closes the block. -/
def blockLength? (p : Passing) : List Char → Option Nat
  | [] => none
  | c :: rest =>
    if p.quote = none ∧ c = '\x7d' ∧ (p.next c).depth = 0 then some 1
    else (blockLength? (p.next c) rest).map (· + 1)

theorem blockLength?_pos {chars : List Char} {p : Passing} {n : Nat}
    (found : blockLength? p chars = some n) : 0 < n := by
  cases chars with
  | nil => simp [blockLength?] at found
  | cons c rest =>
    unfold blockLength? at found
    split at found
    · cases found; omega
    · obtain ⟨m, _, rfl⟩ := Option.map_eq_some_iff.mp found
      omega

end Scriptlet
