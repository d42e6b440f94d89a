import Mathlib.Data.List.Induction
import Scriptlet.Bindings
set_option autoImplicit false

/-!
# Bindings in order

The names of bindings are in ascending order, each of them once, and binding a name keeps them so.
A name has the value it was bound to last; when it was bound before, the names stay what they were.
-/

namespace Scriptlet.Bindings

theorem contains_iff {b : Bindings} {name : String} : b.contains name = true ↔ name ∈ b.names := by
  simp [contains, names]

theorem get?_eq_none_iff {b : Bindings} {name : String} : b.get? name = none ↔ name ∉ b.names := by
  rw [get?, Option.map_eq_none_iff, List.find?_eq_none, names, List.mem_map]
  constructor
  · rintro unbound ⟨entry, member, rfl⟩
    exact unbound entry member (beq_self_eq_true _)
  · intro unbound entry member same
    exact unbound ⟨entry, member, eq_of_beq same⟩

/-! ## Binding one name -/

section

variable {name : String} {value : Value} {entries : List (String × Value)}

theorem mem_insertEntry {entry : String × Value} (member : entry ∈ insertEntry name value entries) :
    entry = (name, value) ∨ entry ∈ entries := by
  induction entries with
  | nil => exact .inl (List.mem_singleton.mp member)
  | cons first rest ih =>
    rw [insertEntry] at member
    split at member
    · exact List.mem_cons.mp member
    split at member
    · exact (List.mem_cons.mp member).imp id (List.mem_cons_of_mem _)
    · rcases List.mem_cons.mp member with rfl | later
      · exact .inr List.mem_cons_self
      · exact (ih later).imp id (List.mem_cons_of_mem _)

/-- A name that is bound already keeps its place. -/
theorem map_insertEntry_of_mem (sorted : (entries.map Prod.fst).Pairwise (· < ·))
    (bound : name ∈ entries.map Prod.fst) :
    (insertEntry name value entries).map Prod.fst = entries.map Prod.fst := by
  induction entries with
  | nil => cases bound
  | cons first rest ih =>
    rw [List.map_cons, List.pairwise_cons] at sorted
    rw [List.map_cons, List.mem_cons] at bound
    rw [insertEntry]
    split
    next below =>
      rcases bound with same | later
      · exact absurd (same ▸ below) (String.lt_irrefl _)
      · exact absurd (String.lt_trans below (sorted.1 name later)) (String.lt_irrefl _)
    split
    next same => rw [List.map_cons, List.map_cons, same]
    next other => rw [List.map_cons, List.map_cons, ih sorted.2 (bound.resolve_left other)]

theorem find?_insertEntry (other : String) :
    (insertEntry name value entries).find? (fun entry => entry.1 == other) =
      if other = name then some (name, value)
      else entries.find? fun entry => entry.1 == other := by
  induction entries with
  | nil =>
    by_cases same : other = name
    · simp [insertEntry, same]
    · rw [if_neg same, insertEntry, List.find?_cons_of_neg (by simpa using Ne.symm same)]
  | cons first rest ih =>
    rw [insertEntry]
    by_cases same : other = name
    · subst same
      rw [if_pos rfl] at ih ⊢
      split
      · simp
      split
      · simp
      next differs => rw [List.find?_cons_of_neg (by simpa using Ne.symm differs), ih]
    · rw [if_neg same] at ih ⊢
      split
      next => rw [List.find?_cons_of_neg (by simpa using Ne.symm same)]
      split
      next here => simp [here, Ne.symm (here ▸ same)]
      next => rw [List.find?_cons, List.find?_cons, ih]

end

variable {b : Bindings}

theorem mem_entries_insert {name : String} {value : Value} {entry : String × Value}
    (member : entry ∈ (b.insert name value).entries) :
    entry = (name, value) ∨ entry ∈ b.entries :=
  mem_insertEntry member

theorem mem_names_insert {name other : String} {value : Value} :
    other ∈ (b.insert name value).names ↔ other = name ∨ other ∈ b.names :=
  mem_map_insertEntry

theorem names_insert {name : String} (bound : name ∈ b.names) (value : Value) :
    (b.insert name value).names = b.names :=
  map_insertEntry_of_mem b.ascending bound

theorem get?_insert (b : Bindings) (name other : String) (value : Value) :
    (b.insert name value).get? other = if other = name then some value else b.get? other := by
  rw [get?, insert, find?_insertEntry, apply_ite (Option.map Prod.snd)]
  rfl

/-! ## Binding many names -/

theorem ofList_concat (pairs : List (String × Value)) (name : String) (value : Value) :
    ofList (pairs ++ [(name, value)]) = (ofList pairs).insert name value := by
  rw [ofList, List.foldl_append]
  rfl

theorem mem_names_ofList {pairs : List (String × Value)} {name : String} :
    name ∈ (ofList pairs).names ↔ name ∈ pairs.map Prod.fst := by
  induction pairs using List.reverseRecOn with
  | nil => simp [ofList, empty, names]
  | append_singleton pairs pair ih =>
    rw [ofList_concat, mem_names_insert, ih]
    simp [or_comm]

theorem mem_of_mem_ofList {pairs : List (String × Value)} {entry : String × Value}
    (member : entry ∈ (ofList pairs).entries) : entry ∈ pairs := by
  induction pairs using List.reverseRecOn with
  | nil => cases member
  | append_singleton pairs pair ih =>
    rw [ofList_concat] at member
    rw [List.mem_append, List.mem_singleton]
    exact (mem_entries_insert member).symm.imp ih id

/-- Of several values of a name the last one counts. -/
theorem get?_ofList (pairs : List (String × Value)) (name : String) :
    (ofList pairs).get? name = (pairs.reverse.find? fun pair => pair.1 == name).map Prod.snd := by
  induction pairs using List.reverseRecOn with
  | nil => rfl
  | append_singleton pairs pair ih =>
    rw [ofList_concat, get?_insert, List.reverse_append, List.reverse_singleton,
      List.singleton_append, ih]
    by_cases same : name = pair.1
    · simp [same]
    · rw [if_neg same, List.find?_cons_of_neg (by simpa using Ne.symm same)]

end Scriptlet.Bindings
