import Scriptlet.Value
set_option autoImplicit false

/-!
# Bindings

The names bound in one scope with their values, in ascending order of the names, each name once.
Names are compared code point by code point.
-/

namespace Scriptlet

/-- Names with their values, in ascending order of the names. -/
structure Bindings where
  entries : List (String × Value)
  ascending : (entries.map Prod.fst).Pairwise (· < ·) := by decide

namespace Bindings

/-- No names. -/
def empty : Bindings := ⟨[], .nil⟩

instance : Inhabited Bindings := ⟨empty⟩

/-- The value of a name. -/
def get? (b : Bindings) (name : String) : Option Value :=
  (b.entries.find? fun entry => entry.1 == name).map Prod.snd

/-- Whether a name is bound. -/
def contains (b : Bindings) (name : String) : Bool := b.entries.any fun entry => entry.1 == name

/-- The names, in ascending order. -/
def names (b : Bindings) : List String := b.entries.map Prod.fst

/-- The entries with `name` bound to `value`, put in its place. -/
def insertEntry (name : String) (value : Value) : List (String × Value) → List (String × Value)
  | [] => [(name, value)]
  | (key, old) :: rest =>
    if name < key then (name, value) :: (key, old) :: rest
    else if name = key then (name, value) :: rest
    else (key, old) :: insertEntry name value rest

theorem mem_map_insertEntry {name other : String} {value : Value}
    {entries : List (String × Value)} :
    other ∈ (insertEntry name value entries).map Prod.fst ↔
      other = name ∨ other ∈ entries.map Prod.fst := by
  induction entries with
  | nil => simp [insertEntry]
  | cons first rest ih =>
    rw [insertEntry]
    split
    · simp
    split
    next same => simp [same]
    next => simp [ih, or_left_comm]

theorem lt_of_not_lt {a b : String} (above : ¬ a < b) (other : a ≠ b) : b < a := by
  refine Decidable.byContradiction fun below => other ?_
  exact String.le_antisymm (String.not_lt.mp below) (String.not_lt.mp above)

/-- What is put in its place keeps the names in order. -/
theorem pairwise_insertEntry {name : String} {value : Value} {entries : List (String × Value)}
    (sorted : (entries.map Prod.fst).Pairwise (· < ·)) :
    ((insertEntry name value entries).map Prod.fst).Pairwise (· < ·) := by
  induction entries with
  | nil => simp [insertEntry]
  | cons first rest ih =>
    rw [List.map_cons, List.pairwise_cons] at sorted
    rw [insertEntry]
    split
    next below =>
      simp only [List.map_cons, List.pairwise_cons, List.mem_cons, forall_eq_or_imp]
      exact ⟨⟨below, fun key member => String.lt_trans below (sorted.1 key member)⟩, sorted⟩
    split
    next same =>
      rw [List.map_cons, List.pairwise_cons, same]
      exact sorted
    next above other =>
      rw [List.map_cons, List.pairwise_cons]
      refine ⟨fun key member => ?_, ih sorted.2⟩
      rcases mem_map_insertEntry.mp member with rfl | later
      · exact lt_of_not_lt above other
      · exact sorted.1 key later

/-- Binds a name; an older value of the name is replaced. -/
def insert (b : Bindings) (name : String) (value : Value) : Bindings :=
  ⟨insertEntry name value b.entries, pairwise_insertEntry b.ascending⟩

/-- The bindings of a list of pairs; of several values of a name the last one stays. -/
def ofList (pairs : List (String × Value)) : Bindings :=
  pairs.foldl (fun b pair => b.insert pair.1 pair.2) empty

end Bindings

end Scriptlet
