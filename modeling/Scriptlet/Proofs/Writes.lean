import Mathlib.Logic.Relation
import Scriptlet.Proofs.Targets
set_option autoImplicit false

/-!
# What a write does to lookups

A name is written in one scope, but it is read along the way up from any scope.  A write is therefore
seen from every scope whose lookups come to the written one before they find the name elsewhere, and
from no other; all other names, and all scopes further up, are read as before.
-/

namespace Scriptlet

namespace Store

/-! ## The scopes that a lookup comes to -/

/-- A lookup of the name in the first scope comes to the second: no scope before it on the way up
binds the name. -/
inductive Consults (s : Store) (name : String) : ScopeId → ScopeId → Prop where
  | own (id : ScopeId) : Consults s name id id
  | above {id up other : ScopeId} (unbound : name ∉ s.names id) (parent : s.IsParent up id)
      (rest : Consults s name up other) : Consults s name id other

/-- On the way up from the first scope, the second is the first one that binds the name. -/
def FindsIn (s : Store) (name : String) (id here : ScopeId) : Prop :=
  s.Consults name id here ∧ name ∈ s.names here

/-- The scope that lookups go on to. -/
def parent? (s : Store) (id : ScopeId) : Option ScopeId := (s.scope? id).bind Scope.parent

variable {s t : Store} {name : String}

theorem isParent_iff {up id : ScopeId} : s.IsParent up id ↔ s.parent? id = some up :=
  Option.bind_eq_some_iff.symm

/-- A name means what the scope itself binds it to, and else what it means in the parent. -/
theorem lookup_eq_or (s : Store) (id : ScopeId) (name : String) :
    s.lookup id name =
      (s.binding? id name).or ((s.parent? id).bind fun up => s.lookup up name) := by
  cases found : s.scope? id with
  | none => rw [lookup_of_none found, binding?, parent?, found]; rfl
  | some scope => rw [lookup_of_scope? found, binding?_eq found, parent?, found, Option.bind_some]

theorem lookup_of_binding? {id : ScopeId} {v : Value} (bound : s.binding? id name = some v) :
    s.lookup id name = some v := by
  rw [lookup_eq_or, bound, Option.some_or]

/-- A lookup finds what the first scope on the way up binds. -/
theorem Consults.lookup_eq {id here : ScopeId} (consults : s.Consults name id here) {v : Value}
    (bound : s.binding? here name = some v) : s.lookup id name = some v := by
  induction consults with
  | own id => exact lookup_of_binding? bound
  | above unbound parent _ ih =>
    rw [lookup_eq_or, binding?_eq_none_iff.mpr unbound, isParent_iff.mp parent, Option.none_or,
      Option.bind_some]
    exact ih bound

/-- A lookup leads to older scopes. -/
theorem Consults.index_le {id other : ScopeId} (consults : s.Consults name id other) :
    other.index ≤ id.index := by
  induction consults with
  | own id => exact Nat.le_refl _
  | above _ parent _ ih => exact Nat.le_trans ih (Nat.le_of_lt parent.index_lt)

theorem exists_scope_of_lookup {id : ScopeId} {v : Value} (found : s.lookup id name = some v) :
    ∃ scope, s.scope? id = some scope := by
  cases here : s.scope? id with
  | some scope => exact ⟨scope, rfl⟩
  | none =>
    rw [lookup_of_none here] at found
    cases found

/-! ## Stores of the same frame -/

section

variable (frames : ∀ id : ScopeId, (t.scope? id).map Scope.frame = (s.scope? id).map Scope.frame)

include frames

theorem parent?_of_frames (id : ScopeId) : t.parent? id = s.parent? id := by
  have parents (x : Store) : x.parent? id = ((x.scope? id).map Scope.frame).bind (·.2.1) := by
    rw [parent?, Option.bind_map]
    rfl
  rw [parents, parents, frames]

/-- A lookup depends only on what the scopes it comes to bind the name to. -/
theorem lookup_congr {id : ScopeId}
    (same : ∀ other, s.Consults name id other → t.binding? other name = s.binding? other name) :
    t.lookup id name = s.lookup id name := by
  induction index : id.index using Nat.strongRecOn generalizing id with
  | ind n ih =>
    rw [lookup_eq_or, lookup_eq_or, same id (.own id), parent?_of_frames frames]
    cases bound : s.binding? id name with
    | some v => rfl
    | none =>
      cases parent : s.parent? id with
      | none => rfl
      | some up =>
        rw [Option.none_or, Option.none_or, Option.bind_some, Option.bind_some]
        have above := isParent_iff.mpr parent
        refine ih up.index (index ▸ above.index_lt) (fun other consulted => same other ?_) rfl
        exact .above (binding?_eq_none_iff.mp bound) above consulted

end

/-! ## One write -/

namespace ChangedOnly

variable {a : ScopeId}

theorem names_iff (changed : s.ChangedOnly (· = ⟨a, name⟩) t) {id : ScopeId} (other : id ≠ a) :
    name ∈ t.names id ↔ name ∈ s.names id := by
  rw [← not_iff_not, ← binding?_eq_none_iff, ← binding?_eq_none_iff]
  rw [changed.bindings ⟨id, name⟩ fun same => other (congrArg Label.scope same)]

/-- A lookup that came to the written scope still comes to it. -/
theorem consults (changed : s.ChangedOnly (· = ⟨a, name⟩) t) {id : ScopeId}
    (consults : s.Consults name id a) : t.Consults name id a := by
  induction consults with
  | own id => exact .own id
  | @above id up a unbound parent _ ih =>
    by_cases here : id = a
    · rw [here]
      exact .own a
    · have still : name ∉ t.names id := mt (changed.names_iff here).mp unbound
      rw [isParent_iff, ← parent?_of_frames changed.frames, ← isParent_iff] at parent
      exact .above still parent (ih changed)

/-- Lookups that do not come to the written scope, or are of another name, find what they found. -/
theorem lookup_eq (changed : s.ChangedOnly (· = ⟨a, name⟩) t) {id : ScopeId} {other : String}
    (apart : other = name → ¬ s.Consults name id a) : t.lookup id other = s.lookup id other := by
  refine lookup_congr changed.frames fun here consulted => changed.bindings ⟨here, other⟩ ?_
  rintro ⟨⟩
  exact apart rfl consulted

end ChangedOnly

end Store

/-! ## Declaring and changing a name -/

section

variable {a : ScopeId} {n : String} {v : Value} {s t : Store}

/-- Only an instance refuses a name, and only one that is none of its fields. -/
theorem declare_ok_iff :
    (declare a n v s).1 = .ok () ↔ (s.isInstance a = true → n ∈ s.names a) := by
  rw [declare, Store.isInstance, Store.names]
  cases s.scope? a with
  | none => simp
  | some scope =>
    simp only [Option.map_some, Option.getD_some, ← Bindings.contains_iff]
    cases scope.fixed <;> cases scope.bindings.contains n <;> simp

/-- A name that was written in an existing scope is bound there. -/
theorem binding?_of_declare {scope : Scope} (found : s.scope? a = some scope)
    (done : declare a n v s = (.ok (), t)) : t.binding? a n = some v := by
  simp only [declare, found] at done
  split at done <;> cases done
  rw [Store.binding?, Store.scope?_setBindings, if_pos rfl, found, Option.map_some, Option.bind_some,
    Bindings.get?_insert, if_pos rfl]

theorem changedOnly_of_declare (done : declare a n v s = (.ok (), t)) :
    s.ChangedOnly (· = ⟨a, n⟩) t := by
  have changed := changedOnly_declare a n v s
  rw [done] at changed
  exact changed

theorem declare_of_missing (missing : s.scope? a = none) : declare a n v s = (.ok (), s) := by
  rw [declare, missing]

section

variable {op : Operator} {r : Value} {fault : Fault}

/-- A change succeeds exactly if there is a value to change, the operator has a result for it, and
the result can be declared; and declaring it is all that is done. -/
theorem changeBy_ok_iff :
    changeBy a n v op s = (.ok r, t) ↔
      ∃ present, s.lookup a n = some present ∧ op.apply present v = .ok r ∧
        declare a n r s = (.ok (), t) := by
  constructor
  · intro done
    rcases changeBy_cases a n v op s with ⟨fault, failed⟩ | ⟨present, r', after, found, applied, same⟩
    · cases failed.symm.trans done
    · obtain ⟨declared, changed⟩ := same
      cases changed.symm.trans done
      exact ⟨present, found, applied, declared⟩
  · rintro ⟨present, found, applied, declared⟩
    rw [changeBy_of_result found applied, Action.bind_of_ok declared, Action.pure_apply]

theorem changeBy_of_error (failed : changeBy a n v op s = (.error fault, t)) : t = s := by
  rcases changeBy_cases a n v op s with ⟨fault, same⟩ | ⟨_, _, _, _, _, _, done⟩
  · cases failed.symm.trans same
    rfl
  · cases failed.symm.trans done

end

/-- A write is seen from exactly the scopes on whose way up the written scope is the first to bind
the name. -/
theorem lookup_of_declare (done : declare a n v s = (.ok (), t)) (b : ScopeId) (m : String) :
    (m = n ∧ t.FindsIn n b a → t.lookup b m = some v) ∧
      (¬ (m = n ∧ t.FindsIn n b a) → t.lookup b m = s.lookup b m) := by
  have changed := changedOnly_of_declare done
  cases found : s.scope? a with
  | none =>
    -- Nothing was written, and a scope that does not exist binds nothing.
    cases (declare_of_missing found).symm.trans done
    refine ⟨fun ⟨_, _, bound⟩ => ?_, fun _ => rfl⟩
    rw [Store.names, found] at bound
    cases bound
  | some scope =>
    have written := binding?_of_declare found done
    refine ⟨fun ⟨same, finds, _⟩ => ?_, fun apart => ?_⟩
    · rw [same]
      exact finds.lookup_eq written
    · refine changed.lookup_eq fun same consults => apart ⟨same, changed.consults consults, ?_⟩
      by_contra unbound
      cases written.symm.trans (Store.binding?_eq_none_iff.mpr unbound)

end

/-- What one write does to every lookup, in any store.  Declaring a name in a scope fails exactly for
an instance that has no such field.  When it is done, the name has the new value in every scope on
whose way up the written scope is then the first to bind it, and apart from that every name means
what it meant in every scope.  Changing a name succeeds exactly if it has a value, possibly one from
further up, the operator has a result for it, and the result can be declared; it gives that result
and does what declaring the result in the scope itself does, and all scopes above read as before.
Whichever of the two fails, no lookup anywhere changes. -/
theorem lookups_after_write (s : Store) (a : ScopeId) (n : String) (v : Value) :
    ((declare a n v s).1 = .ok () ↔ (s.isInstance a = true → n ∈ s.names a)) ∧
    (∀ t, declare a n v s = (.ok (), t) → ∀ b m,
      (m = n ∧ t.FindsIn n b a → t.lookup b m = some v) ∧
      (¬ (m = n ∧ t.FindsIn n b a) → t.lookup b m = s.lookup b m)) ∧
    (∀ op r t,
      (changeBy a n v op s = (.ok r, t) ↔
        ∃ present, s.lookup a n = some present ∧ op.apply present v = .ok r ∧
          declare a n r s = (.ok (), t)) ∧
      (changeBy a n v op s = (.ok r, t) →
        t.binding? a n = some r ∧
        ∀ b, Relation.TransGen s.IsParent b a → ∀ m, t.lookup b m = s.lookup b m)) ∧
    (∀ fault t, declare a n v s = (.error fault, t) → ∀ b m, t.lookup b m = s.lookup b m) ∧
    ∀ op fault t, changeBy a n v op s = (.error fault, t) →
      ∀ b m, t.lookup b m = s.lookup b m := by
  refine ⟨declare_ok_iff, fun t done => lookup_of_declare done,
    fun op r t => ⟨changeBy_ok_iff, fun done => ?_⟩, fun fault t failed b m => ?_,
    fun op fault t failed b m => ?_⟩
  · obtain ⟨present, found, _, declared⟩ := changeBy_ok_iff.mp done
    obtain ⟨scope, here⟩ := Store.exists_scope_of_lookup found
    refine ⟨binding?_of_declare here declared, fun b above m => ?_⟩
    refine (changedOnly_of_declare declared).lookup_eq fun _ consults => ?_
    exact absurd (Store.index_lt_of_transGen above) (Nat.not_lt.mpr consults.index_le)
  · rw [declare_of_error failed]
  · rw [changeBy_of_error failed]

/-- Four scopes: the second is above the first, and the third and the fourth are above the second.
The name `x` is bound in the first and in the third.  A change in the second copies the value down
from the first; the fourth then reads the new value, the first and the third read what they read
before. -/
theorem lookups_after_write_copied_down :
    let ops : List Operation :=
      [.root none, .declare ⟨0⟩ "x" (.string "a"), .child ⟨0⟩, .child ⟨1⟩,
        .declare ⟨2⟩ "x" (.bool false), .child ⟨1⟩]
    let s := Store.empty.perform ops
    let t := (declare ⟨1⟩ "x" (.bool true) s).2
    changeBy ⟨1⟩ "x" (.string "b") .unequal s = (.ok (.bool true), t) ∧
    t.FindsIn "x" ⟨3⟩ ⟨1⟩ ∧ t.lookup ⟨3⟩ "x" = some (.bool true) ∧
    ¬ t.FindsIn "x" ⟨2⟩ ⟨1⟩ ∧ t.lookup ⟨2⟩ "x" = s.lookup ⟨2⟩ "x" ∧
    Relation.TransGen s.IsParent ⟨0⟩ ⟨1⟩ ∧ t.lookup ⟨0⟩ "x" = s.lookup ⟨0⟩ "x" := by
  intro ops s t
  have changed : changeBy ⟨1⟩ "x" (.string "b") .unequal s = (.ok (.bool true), t) := by cbv
  have declared : declare ⟨1⟩ "x" (.bool true) s = (.ok (), t) := rfl
  have below : t.FindsIn "x" ⟨3⟩ ⟨1⟩ := by
    have unbound : "x" ∉ t.names ⟨3⟩ := List.not_mem_nil
    exact ⟨.above unbound ⟨_, rfl, rfl⟩ (.own _), List.mem_singleton.mpr rfl⟩
  have apart : ¬ t.FindsIn "x" ⟨2⟩ ⟨1⟩ := by
    have bound : "x" ∈ t.names ⟨2⟩ := List.mem_singleton.mpr rfl
    rintro ⟨_ | ⟨unbound, _, _⟩, _⟩
    exact unbound bound
  have above : Relation.TransGen s.IsParent ⟨0⟩ ⟨1⟩ := .single ⟨_, rfl, rfl⟩
  obtain ⟨_, reads, _⟩ := lookups_after_write s ⟨1⟩ "x" (.bool true)
  obtain ⟨_, _, changes, _⟩ := lookups_after_write s ⟨1⟩ "x" (.string "b")
  exact ⟨changed, below, (reads t declared ⟨3⟩ "x").1 ⟨rfl, below⟩, apart,
    (reads t declared ⟨2⟩ "x").2 fun same => apart same.2, above,
    ((changes _ _ _).2 changed).2 ⟨0⟩ above "x"⟩

end Scriptlet
