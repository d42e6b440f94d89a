import Scriptlet.Library
import Scriptlet.Proofs.Acceptance
import Scriptlet.Proofs.Changes
set_option autoImplicit false

/-!
# Calls are made of small changes

What the library makes, prints and writes down is made of small changes of the store, whichever
routine is called, from whichever scope, and whether the call fails or not.  What a call gives back
mentions only scopes that its arguments mention and scopes it has made.
-/

namespace Scriptlet

/-- In a store of `n` scopes all the values may stand. -/
abbrev Value.AllAdmitted (c : Census) (n : Nat) (values : List Value) : Prop :=
  ∀ v ∈ values, v.Admitted c n

theorem Value.AllAdmitted.mono {c : Census} {n m : Nat} (more : n ≤ m) {values : List Value}
    (admitted : Value.AllAdmitted c n values) : Value.AllAdmitted c m values :=
  fun v member => (admitted v member).mono more

/-! ## Results that are atoms -/

/-- A result, if there is one, is an atom. -/
def GivesAtom (x : Except Fault Value) : Prop := ∀ v, x = .ok v → v.IsAtom

namespace GivesAtom

theorem pure {v : Value} (atom : v.IsAtom) : GivesAtom (Pure.pure v) := by
  intro w done
  cases done
  exact atom

theorem error (fault : Fault) : GivesAtom (.error fault) := fun _ done => nomatch done

theorem bind {α : Type} {x : Except Fault α} {f : α → Except Fault Value}
    (next : ∀ a, GivesAtom (f a)) : GivesAtom (x >>= f) := by
  intro v done
  obtain ⟨a, _, done⟩ := except_bind_ok done
  exact next a v done

end GivesAtom

/-- A step that reads an atom, or none, off the store. -/
theorem Action.Traced.atom {c : Census} {n : Nat} {read : Store → Except Fault Value}
    (atoms : ∀ s, GivesAtom (read s)) :
    (Action.ask read).Traced c n fun m v => v.Admitted c m :=
  .ask fun s _ _ v done => (atoms s v done).admitted

/-! ## What is made -/

section Making

variable {c : Census} {s : Store}

theorem Action.Traced.create {α : Type} {n : Nat} {R : Nat → α → Prop} {make : Store → α × Store}
    (made : ∀ s : Store, s.Sound c → n ≤ s.scopes.size →
      s.Becomes c (make s).2 ∧ R (make s).2.scopes.size (make s).1) :
    (Action.create make).Traced c n R := by
  intro s sound enough
  obtain ⟨becomes, holds⟩ := made s sound enough
  refine ⟨becomes, fun x done => ?_⟩
  cases done
  exact holds

/-- A scope is sound when it is made with admitted values. -/
theorem Scope.sound_ofList {n : Nat} (label : Option String) {pairs : List (String × Value)}
    (parent : Option ScopeId) (fixed : Bool) (values : ∀ pair ∈ pairs, pair.2.Admitted c n) :
    Scope.Sound c n { label, bindings := .ofList pairs, parent, fixed } :=
  fun _ member => values _ (Bindings.mem_of_mem_ofList member)

theorem Store.admits_addScope (c : Census) (s : Store) {scope : Scope}
    (below : scope.ParentBelow s.scopes.size) :
    c.admits (s.addScope scope below).2.scopes.size (s.addScope scope below).1 := by
  simpa [Store.addScope] using c.newest s.scopes.size

theorem Store.becomes_newRoot (c : Census) (s : Store) (label : Option String) :
    s.Becomes c (s.newRoot label).2 :=
  .single (.make _ (Scope.sound_ofList label none false (List.forall_mem_nil _)))

theorem Store.becomes_newChild (c : Census) (s : Store) (parent : ScopeId) :
    s.Becomes c (s.newChild parent).2 :=
  .single (.make _ (Scope.sound_ofList none _ false (List.forall_mem_nil _)))

theorem Store.becomes_newInstance {fields : List (String × Value)}
    (admitted : ∀ field ∈ fields, field.2.Admitted c s.scopes.size) :
    s.Becomes c (s.newInstance fields).2 :=
  .single (.make _ (Scope.sound_ofList none none true admitted))

namespace Library

theorem isAtom_bindings {first : Nat} {builtins : List Builtin} {pair : String × Value}
    (member : pair ∈ bindings first builtins ++ mathConstants) : pair.2.IsAtom := by
  rcases List.mem_append.mp member with function | constant
  · obtain ⟨entry, _, rfl⟩ := List.mem_map.mp function
    trivial
  · simp only [mathConstants, List.mem_cons, List.not_mem_nil, or_false] at constant
    rcases constant with rfl | rfl | rfl <;> trivial

theorem becomes_install (c : Census) (s : Store) (label : String) (builtins : List Builtin) :
    s.Becomes c (install label builtins s).2 := by
  refine (Store.Becomes.single (.count builtins.length)).trans (.single (.make _ ?_))
  exact Scope.sound_ofList (some label) none false fun pair member =>
    (isAtom_bindings member).admitted

theorem becomes_newScope (c : Census) (s : Store) (library : Library) :
    s.Becomes c (library.newScope s).2 := by
  refine (becomes_install c s "builtins" (functions library.output)).trans
    (.single (.make (library.parentBelow_newBuiltins s rfl) ?_))
  refine Scope.sound_ofList none _ false fun pair member => ?_
  obtain ⟨path, _, rfl⟩ := List.mem_map.mp member
  exact Value.IsAtom.admitted trivial

theorem traced_load {n : Nat} (name : String) : (load name).Traced c n c.admits := by
  rw [load]
  split
  · exact .create fun s _ _ =>
      ⟨becomes_install c s name mathFunctions, Store.admits_addScope c _ _⟩
  · exact .fail _

theorem traced_newRoutine {n : Nat} (behaviour : Behaviour) :
    (Action.create (newRoutine behaviour)).Traced c n fun _ _ => True :=
  .create fun _ _ _ => ⟨.single (.count 1), trivial⟩

theorem traced_print {n : Nat} (output : Output) (args : List Value) :
    (print output args).Traced c n fun _ _ => True :=
  fun _ _ _ => ⟨.single (.print _ output), fun _ _ => trivial⟩

end Library

end Making

/-! ## Calls -/

namespace Library

variable {c : Census} {n : Nat} {args : List Value}

theorem single_mem {name : String} {v : Value} (done : single name args = .ok v) : v ∈ args := by
  rw [single.eq_def] at done
  split at done <;> cases done
  exact List.mem_singleton.mpr rfl

theorem givesAtom_makeRange (args : List Value) : GivesAtom (makeRange args) := by
  rw [makeRange.eq_def]
  split
  · exact .bind fun _ => .pure trivial
  · exact .bind fun _ => .bind fun _ => .bind fun _ => .pure trivial
  · exact .error _

theorem givesAtom_toInt (v : Value) : GivesAtom (toInt v) := by
  rw [toInt.eq_def]
  split
  · split
    · exact .pure trivial
    · exact .error _
  · exact .bind fun _ => .pure trivial

theorem givesAtom_toFloat (v : Value) : GivesAtom (toFloat v) := by
  rw [toFloat.eq_def]
  split
  · split
    · exact .pure trivial
    · exact .error _
  · exact .bind fun _ => .pure trivial

/-- The items of an array are those it has; the items of a range or a string are atoms. -/
theorem admitted_items {v : Value} (admitted : v.Admitted c n) {values : List Value}
    (done : items v = .ok values) : Value.AllAdmitted c n values := by
  have atoms {α : Type} (f : α → Value) (atom : ∀ a, (f a).IsAtom) (list : List α) :
      Value.AllAdmitted c n (list.map f) := by
    intro item member
    obtain ⟨a, _, rfl⟩ := List.mem_map.mp member
    exact (atom a).admitted
  rw [items.eq_def] at done
  split at done
  · split at done <;> cases done
    exact atoms _ (fun _ => by trivial) _
  · cases done
    exact Value.admitted_array_iff.mp admitted
  · cases done
    exact atoms _ (fun _ => by trivial) _
  · cases done

theorem traced_callBuiltin (builtin : Builtin) (caller : ScopeId)
    (admitted : Value.AllAdmitted c n args) :
    (callBuiltin builtin caller args).Traced c n fun m v => v.Admitted c m := by
  cases builtin with
  | range => exact .atom fun _ => givesAtom_makeRange args
  | typeOf => exact .atom fun _ => .bind fun _ => .pure trivial
  | text => exact .atom fun _ => .bind fun _ => .pure trivial
  | int => exact .atom fun _ => .bind givesAtom_toInt
  | float => exact .atom fun _ => .bind givesAtom_toFloat
  | print output =>
    refine .bind (traced_print output args) fun m _ more _ => .pure fun last evenMore => ?_
    exact Value.admitted_array_iff.mpr (admitted.mono (Nat.le_trans more evenMore))
  | load =>
    refine .ask_bind fun value => .ask_bind fun name => ?_
    refine .bind (traced_load name) fun m library _ loaded => ?_
    have value := Value.admitted_scope_iff.mpr loaded
    exact .bind (traced_declare caller name value) fun _ _ more _ => .pure fun _ evenMore =>
      value.mono (Nat.le_trans more evenMore)
  | gate => exact .atom fun _ => .bind fun _ => .pure trivial
  | structureOf =>
    refine .ask_bind fun fields => ?_
    exact .bind (traced_newRoutine _) fun _ maker _ _ => .pure fun _ _ =>
      Value.IsAtom.admitted trivial
  | list =>
    refine .ofExcept fun m more v done => ?_
    obtain ⟨value, only, done⟩ := except_bind_ok done
    obtain ⟨values, listed, done⟩ := except_bind_ok done
    cases done
    have whole := (admitted value (single_mem only)).mono more
    exact Value.admitted_array_iff.mpr (admitted_items whole listed)
  | length => exact .atom fun _ => .bind fun _ => .bind fun _ => .pure trivial
  | real f => exact .atom fun _ => .bind fun _ => .bind fun _ => .pure trivial
  | hypotenuse => exact .atom fun _ => .bind fun _ => .bind fun _ => .bind fun _ => .pure trivial
  | factorial => exact .atom fun _ => .bind fun _ => .bind fun _ => .pure trivial
  | binomial => exact .atom fun _ => .bind fun _ => .bind fun _ => .bind fun _ => .pure trivial

theorem traced_instantiate (name : String) (fields : List String)
    (admitted : Value.AllAdmitted c n args) :
    (instantiate name fields args).Traced c n fun m v => v.Admitted c m := by
  rw [instantiate]
  split
  · refine .bind (R := c.admits) (.create fun s _ enough => ⟨?_, ?_⟩) fun m made _ new => ?_
    · refine Store.becomes_newInstance fun field member => ?_
      exact (admitted _ (List.of_mem_zip member).2).mono enough
    · exact Store.admits_addScope c _ _
    · exact .pure fun _ more => Value.admitted_scope_iff.mpr (c.mono more new)
  · exact .fail _

end Library

theorem traced_call {c : Census} {n : Nat} (r : Routine) (caller : ScopeId) {args : List Value}
    (admitted : Value.AllAdmitted c n args) :
    (r.call caller args).Traced c n fun m v => v.Admitted c m := by
  rw [Routine.call]
  split
  · exact Library.traced_callBuiltin _ caller admitted
  · exact Library.traced_instantiate _ _ admitted

end Scriptlet
