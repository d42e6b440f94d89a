import Scriptlet.Proofs.Bindings
import Scriptlet.Proofs.Sessions
set_option autoImplicit false

/-!
# Built-in functions stay as they are

A program runs in a scope above the scope of its built-in functions.  Names are written only to
scopes that the program holds: its own, and those it has got as values, as loaded libraries and
instances.  The scope below its own is never among them.  So whatever lines are interpreted, the
built-in functions keep their names and values, no value within the program's reach is their scope,
and a name that the program has not bound itself still means what it meant at the beginning.

The world of a store compared with itself says what the program holds: that world grows along every
line, but only by scopes that are new.
-/

namespace Scriptlet

/-! ## What a program can reach -/

/-- The values within reach of a program: those bound in its scope, the items of arrays within
reach, and what scopes within reach bind. -/
inductive Store.Reaches (s : Store) (home : ScopeId) : Value → Prop where
  | bound {scope : Scope} {name : String} {v : Value} (here : s.scope? home = some scope)
      (entry : (name, v) ∈ scope.bindings.entries) : Reaches s home v
  | item {items : List Value} {v : Value} (array : Reaches s home (.array items))
      (member : v ∈ items) : Reaches s home v
  | field {id : ScopeId} {scope : Scope} {name : String} {v : Value}
      (held : Reaches s home (.scope id)) (found : s.scope? id = some scope)
      (entry : (name, v) ∈ scope.bindings.entries) : Reaches s home v

theorem exists_of_mem_forall₂ {α β : Type} {R : α → β → Prop} {xs : List α} {ys : List β}
    (related : List.Forall₂ R xs ys) {x : α} (member : x ∈ xs) : ∃ y, R x y := by
  induction related with
  | nil => cases member
  | cons here _ ih =>
    rcases List.mem_cons.mp member with rfl | later
    · exact ⟨_, here⟩
    · exact ih later

namespace Store.Related

variable {w : World} {s t : Store}

/-- What a known scope binds stands for something. -/
theorem entry (related : s.Related w t) {i j : ScopeId} (known : w.known i j) {scope : Scope}
    (found : s.scope? i = some scope) {name : String} {v : Value}
    (entry : (name, v) ∈ scope.bindings.entries) : ∃ v', Value.Related w v v' := by
  obtain ⟨a, b, left, _, scopes⟩ := related.scopes known
  cases found.symm.trans left
  obtain ⟨pair, _, values⟩ := exists_of_mem_forall₂ scopes.entries entry
  exact ⟨pair.2, values⟩

/-- Whatever a program can reach stands for something, so every scope it can reach is held. -/
theorem reaches (related : s.Related w t) {home other : ScopeId} (held : w.held home other)
    {v : Value} (reaches : s.Reaches home v) : ∃ v', Value.Related w v v' := by
  induction reaches with
  | bound here entry => exact related.entry (related.known_of_held held) here entry
  | item _ member ih =>
    obtain ⟨_, array⟩ := ih
    cases array with
    | array lengths items =>
      exact exists_of_mem_forall₂ (Value.related_array_iff.mp (.array lengths items)) member
  | field _ found entry ih =>
    obtain ⟨_, scope⟩ := ih
    cases scope with
    | scope held => exact related.entry (related.known_of_held held) found entry

end Store.Related

/-! ## Lines leave alone what is not held -/

/-- Interprets lines one after the other, whether they fail or not. -/
def interpretAll (home : ScopeId) (calls : List Call) (store : Store) : Store :=
  calls.foldl (fun store call => (interpret call.options home call.line store).2) store

/-- A program in the scope `home` does not hold the scope `guarded`, which is as it was at the
start, and its own scope is as it was up to its bindings. -/
structure Confined (home guarded : ScopeId) (start now : Store) : Prop where
  world : ∃ w : World, now.Related w now ∧ w.held home home ∧ ¬ w.Holds guarded
  old : guarded.index < now.scopes.size
  kept : now.scope? guarded = start.scope? guarded
  frame : (now.scope? home).map Scope.frame = (start.scope? home).map Scope.frame

namespace Confined

variable {home guarded : ScopeId} {start now : Store}

/-- What one line preserves. -/
theorem interpret (confined : Confined home guarded start now) (options : Options)
    (line : String) : Confined home guarded start (interpret options home line now).2 := by
  obtain ⟨w, related, held, apart⟩ := confined.world
  obtain ⟨later, grows, keeps, after, _⟩ :=
    Lockstep.interpret held options line now now related
  obtain ⟨_, _, mine, _⟩ := related.scopes (related.known_of_held held)
  refine ⟨⟨later, after, grows.held held, ?_⟩, Nat.lt_of_lt_of_le confined.old keeps.size,
    (keeps.scopes confined.old apart).trans confined.kept,
    (keeps.frames (Store.lt_size_of_scope? mine)).trans confined.frame⟩
  -- What has come to be held on this line is newer than the guarded scope.
  rintro ⟨j, new⟩
  rcases grows.held_new new with earlier | fresh
  · exact apart ⟨j, earlier⟩
  · exact absurd confined.old (Nat.not_lt.mpr fresh)

/-- What all lines preserve. -/
theorem interpretAll (calls : List Call) (confined : Confined home guarded start now) :
    Confined home guarded start (interpretAll home calls now) := by
  induction calls generalizing now with
  | nil => exact confined
  | cons call rest ih => exact ih (confined.interpret call.options call.line)

/-- The guarded scope is out of reach. -/
theorem ne_of_reaches (confined : Confined home guarded start now) {v : Value}
    (reaches : now.Reaches home v) : v ≠ .scope guarded := by
  rintro rfl
  obtain ⟨w, related, held, apart⟩ := confined.world
  obtain ⟨_, same⟩ := related.reaches held reaches
  cases same with
  | scope holds => exact apart ⟨_, holds⟩

end Confined

/-! ## Names -/

/-- A name that a scope does not bind is looked up in its parent. -/
theorem Store.lookup_parent {s : Store} {id parent : ScopeId} {scope : Scope}
    (found : s.scope? id = some scope) (up : scope.parent = some parent) {name : String}
    (unbound : name ∉ s.names id) : s.lookup id name = s.lookup parent name := by
  have missing : scope.bindings.get? name = none := by
    rw [Store.names, found] at unbound
    exact Bindings.get?_eq_none_iff.mpr unbound
  rw [Store.lookup_of_scope? found, missing, up, Option.none_or, Option.bind_some]

/-- A scope without a parent has the same names with the same values in every store. -/
theorem Store.lookup_root {s t : Store} {id : ScopeId} {scope : Scope}
    (left : s.scope? id = some scope) (right : t.scope? id = some scope)
    (root : scope.parent = none) (name : String) : s.lookup id name = t.lookup id name := by
  rw [Store.lookup_of_scope? left, Store.lookup_of_scope? right, root, Option.bind_none,
    Option.bind_none]

/-! ## The scope of a program -/

namespace Library

variable (library : Library) (start : Store)

/-- The built-in functions are a scope without a parent. -/
theorem exists_newBuiltins : ∃ scope,
    (library.newBuiltins start).2.scope? (library.newBuiltins start).1 = some scope ∧
      scope.parent = none :=
  ⟨_, Store.scope?_addScope_new _ (Scope.parentBelow_of_root rfl _), rfl⟩

theorem newBuiltins_older :
    (library.newBuiltins start).1.index < (library.newScope start).1.index ∧
      (library.newBuiltins start).1.index < (library.newScope start).2.scopes.size := by
  simp only [newScope, newBuiltins, install, Store.addScope, Array.size_push]
  omega

/-- They are as they were made when the program's scope is made above them. -/
theorem newScope_newBuiltins :
    (library.newScope start).2.scope? (library.newBuiltins start).1 =
      (library.newBuiltins start).2.scope? (library.newBuiltins start).1 := by
  obtain ⟨scope, found, _⟩ := library.exists_newBuiltins start
  exact Store.scope?_addScope_old (Store.lt_size_of_scope? found)
    (library.parentBelow_newBuiltins start rfl)

/-- Failed lookups in the program's scope go on to them. -/
theorem frame_newScope :
    ((library.newScope start).2.scope? (library.newScope start).1).map Scope.frame =
      some (none, some (library.newBuiltins start).1, false) :=
  congrArg (Option.map Scope.frame)
    (Store.scope?_addScope_new _ (library.parentBelow_newBuiltins start rfl))

/-- A program does not hold its built-in functions when it begins. -/
theorem confined_newScope :
    Confined (library.newScope start).1 (library.newBuiltins start).1 (library.newScope start).2
      (library.newScope start).2 := by
  obtain ⟨w, _, _, related, held, only⟩ := newScope_related (start.related_empty start) library
  obtain ⟨below, old⟩ := library.newBuiltins_older start
  refine ⟨⟨w, related, held, ?_⟩, old, rfl, rfl⟩
  rintro ⟨j, holds⟩
  rcases only holds with nothing | same
  · exact nothing
  · exact absurd (congrArg ScopeId.index same) (Nat.ne_of_lt below)

end Library

/-- A program cannot change its built-in functions.  Whatever lines are interpreted in a scope that
was made from a library, with whatever options and whether they fail or not, the scope of the
built-in functions below it is left exactly as it was made, no value within the program's reach is
that scope, and every name that the program's scope does not bind has the value it has among the
built-in functions at the beginning. -/
theorem builtins_unchanged (library : Library) (start : Store) (calls : List Call) :
    let builtins := (library.newBuiltins start).1
    let original := (library.newBuiltins start).2
    let home := (library.newScope start).1
    let last := interpretAll home calls (library.newScope start).2
    last.scope? builtins = original.scope? builtins ∧
    (∀ v, last.Reaches home v → v ≠ .scope builtins) ∧
    ∀ name, name ∉ last.names home → last.lookup home name = original.lookup builtins name := by
  intro builtins original home last
  have confined := (library.confined_newScope start).interpretAll calls
  have kept : last.scope? builtins = original.scope? builtins :=
    confined.kept.trans (library.newScope_newBuiltins start)
  refine ⟨kept, fun v => confined.ne_of_reaches, fun name unbound => ?_⟩
  obtain ⟨scope, made, root⟩ := library.exists_newBuiltins start
  obtain ⟨own, found, frame⟩ :=
    Option.map_eq_some_iff.mp (confined.frame.trans (library.frame_newScope start))
  have parent : own.parent = some builtins := congrArg (·.2.1) frame
  rw [Store.lookup_parent found parent unbound]
  exact Store.lookup_root (kept.trans made) made root name

end Scriptlet
