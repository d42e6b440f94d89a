import Scriptlet.Proofs.Writes
set_option autoImplicit false

/-!
# What a call does to the store

Most routines only read the store.  The others print a line, count the maker of a structure, make an
instance, or make a library and bind it in the calling scope, and each of them checks its arguments
before it does so.  Only the binding of a library can still be refused, by an instance that has no
such field; by then nothing has been done but that a scope was made which nothing leads to.  So a
call that fails has changed nothing that was there.
-/

namespace Scriptlet

/-- All that a call from the scope `caller` can do to a store, by what is called and how it ends. -/
inductive CallEffect (caller : ScopeId) (args : List Value) (s : Store) :
    Behaviour → Except Fault Value → Store → Prop where
  /-- the store is only read -/
  | reads (behaviour : Behaviour) (result : Except Fault Value) :
      CallEffect caller args s behaviour result s
  /-- a line is printed -/
  | prints (output : Output) (line : String) (v : Value) :
      CallEffect caller args s (.builtin (.print output)) (.ok v) (s.writeLine line output)
  /-- the maker of a structure is counted -/
  | counts (v : Value) : CallEffect caller args s (.builtin .structureOf) (.ok v) (s.withRoutines 1)
  /-- an instance is made -/
  | makes (fields : List String) (v : Value) {scope : Scope}
      (below : scope.ParentBelow s.scopes.size) :
      CallEffect caller args s (.instantiate fields) (.ok v) (s.addScope scope below).2
  /-- a library is made and bound in the calling scope -/
  | loads {name : String} {count : Nat} {library : Scope} {v : Value} {t : Store}
      (known : name ∈ Library.names) (only : args = [.string name])
      (below : library.ParentBelow s.scopes.size)
      (bound : declare caller name v ((s.withRoutines count).addScope library below).2 =
        (.ok (), t)) :
      CallEffect caller args s (.builtin .load) (.ok v) t
  /-- a library is made, but the calling scope refuses it -/
  | refused (count : Nat) {library : Scope} (below : library.ParentBelow s.scopes.size)
      (fault : Fault) :
      CallEffect caller args s (.builtin .load) (.error fault)
        ((s.withRoutines count).addScope library below).2

/-- Whatever the store, the step does to it only what a call of this behaviour can do. -/
def Behaviour.ActsBy (behaviour : Behaviour) (caller : ScopeId) (args : List Value)
    (a : Action Value) : Prop :=
  ∀ s : Store, CallEffect caller args s behaviour (a s).1 (a s).2

namespace Behaviour.ActsBy

variable {behaviour : Behaviour} {caller : ScopeId} {args : List Value}

theorem ask (read : Store → Except Fault Value) : behaviour.ActsBy caller args (.ask read) :=
  fun s => .reads behaviour (read s)

/-- A check that needs no store comes before anything is done. -/
theorem checked {α : Type} {x : Except Fault α} {f : α → Action Value}
    (next : ∀ a, x = .ok a → behaviour.ActsBy caller args (f a)) :
    behaviour.ActsBy caller args (Action.ofExcept x >>= f) := by
  cases x with
  | error fault => exact fun s => .reads behaviour (.error fault)
  | ok a => exact next a rfl

end Behaviour.ActsBy

namespace Library

variable (caller : ScopeId) (args : List Value)

theorem asString_ok {v : Value} {text : String} (done : v.asString = .ok text) :
    v = .string text := by
  cases v with
  | string s =>
    cases done
    rfl
  | number | bool | array | range | routine | scope => cases done

/-- Loading a library: it must be known by its name, and the calling scope must take it. -/
theorem actsBy_load :
    (Behaviour.builtin .load).ActsBy caller args (callBuiltin .load caller args) := by
  refine .checked fun value only => .checked fun name text => ?_
  rw [single_ok only, asString_ok text, load]
  split
  next known =>
    intro s
    have made : Action.create (install name mathFunctions) s =
        (.ok (install name mathFunctions s).1, (install name mathFunctions s).2) := rfl
    rw [Action.bind_of_ok made]
    cases bound : declare caller name (.scope (install name mathFunctions s).1)
        (install name mathFunctions s).2 with
    | mk result after =>
      cases result with
      | error fault =>
        rw [Action.bind_of_error bound, declare_of_error bound]
        exact .refused _ (Scope.parentBelow_of_root rfl _) fault
      | ok _ =>
        rw [Action.bind_of_ok bound]
        exact .loads known rfl (Scope.parentBelow_of_root rfl _) bound
  next => exact .ask _

theorem actsBy_callBuiltin (builtin : Builtin) :
    (Behaviour.builtin builtin).ActsBy caller args (callBuiltin builtin caller args) := by
  cases builtin with
  | print output => exact fun s => .prints output _ _
  | load => exact actsBy_load caller args
  | structureOf => exact .checked fun fields _ s => .counts _
  | range | typeOf | text | int | float | gate | list | length | real | hypotenuse | factorial
  | binomial => exact .ask _

theorem actsBy_instantiate (name : String) (fields : List String) :
    (Behaviour.instantiate fields).ActsBy caller args (instantiate name fields args) := by
  rw [instantiate]
  split
  · exact fun s => .makes fields _ (Scope.parentBelow_of_root rfl _)
  · exact .ask _

end Library

theorem Routine.actsBy_call (r : Routine) (caller : ScopeId) (args : List Value) :
    r.behaviour.ActsBy caller args (r.call caller args) := by
  rw [call]
  split
  next builtin same =>
    rw [same]
    exact Library.actsBy_callBuiltin caller args builtin
  next fields same =>
    rw [same]
    exact Library.actsBy_instantiate caller args r.name fields

/-! ## What stays -/

/-- All scopes of the first store are in the second as they were, and nothing was printed. -/
structure Store.Spares (s t : Store) : Prop where
  scopes : ∀ id : ScopeId, id.index < s.scopes.size → t.scope? id = s.scope? id
  sink : t.sink = s.sink
  others : t.others = s.others

namespace Store.Spares

theorem refl (s : Store) : s.Spares s := ⟨fun _ _ => rfl, rfl, rfl⟩

/-- What is new leaves the rest alone. -/
theorem addScope (s : Store) (count : Nat) {scope : Scope}
    (below : scope.ParentBelow s.scopes.size) :
    s.Spares ((s.withRoutines count).addScope scope below).2 :=
  ⟨fun _ old => scope?_addScope_old old below, rfl, rfl⟩

theorem binding? {s t : Store} (spares : s.Spares t) {id : ScopeId} (old : id.index < s.scopes.size)
    (name : String) : t.binding? id name = s.binding? id name := by
  rw [Store.binding?, Store.binding?, spares.scopes id old]

end Store.Spares

/-- A call that fails has done nothing to what was there. -/
theorem CallEffect.spares_of_error {caller : ScopeId} {args : List Value} {s t : Store}
    {behaviour : Behaviour} {fault : Fault}
    (effect : CallEffect caller args s behaviour (.error fault) t) : s.Spares t := by
  cases effect with
  | reads => exact .refl s
  | refused count below => exact .addScope s count below

/-- A binding that a call has changed is that of a library by its name in the calling scope. -/
theorem CallEffect.changed_of_ok {caller : ScopeId} {args : List Value} {s t : Store}
    {behaviour : Behaviour} {v : Value} (effect : CallEffect caller args s behaviour (.ok v) t)
    {id : ScopeId} (old : id.index < s.scopes.size) {name : String}
    (changed : t.binding? id name ≠ s.binding? id name) :
    behaviour = .builtin .load ∧ id = caller ∧ name ∈ Library.names ∧ args = [.string name] ∧
      t.binding? id name = some v := by
  cases effect with
  | reads => exact absurd rfl changed
  | prints output line => cases output <;> exact absurd rfl changed
  | counts => exact absurd rfl changed
  | makes fields v below => exact absurd ((Store.Spares.addScope s 0 below).binding? old name) changed
  | @loads loaded count library v t known only below bound =>
    have spared := (Store.Spares.addScope s count below).binding? old name
    have target : (⟨id, name⟩ : Label) = ⟨caller, loaded⟩ := by
      by_contra other
      exact changed (((changedOnly_of_declare bound).bindings ⟨id, name⟩ other).trans spared)
    obtain ⟨rfl, rfl⟩ := Label.mk.inj target
    obtain ⟨scope, found⟩ := Store.exists_scope_of_lt old
    have kept := ((Store.Spares.addScope s count below).scopes id old).trans found
    exact ⟨rfl, rfl, known, only, binding?_of_declare kept bound⟩

/-- A call that fails has no effect.  Whichever routine is called, from whichever scope, with
whatever arguments and in whatever store: if the call fails, all scopes that there were are as they
were, and nothing was printed.  If it succeeds, a binding that there was before can have changed
only when a library was loaded, and it is the one in the calling scope under the name of the
library, which now is the library that the call has given. -/
theorem failing_call_changes_nothing (r : Routine) (caller : ScopeId) (args : List Value)
    (s : Store) :
    (∀ fault t, r.call caller args s = (.error fault, t) → s.Spares t) ∧
    ∀ v t, r.call caller args s = (.ok v, t) →
      ∀ id name, id.index < s.scopes.size → t.binding? id name ≠ s.binding? id name →
        r.behaviour = .builtin .load ∧ id = caller ∧ name ∈ Library.names ∧
          args = [.string name] ∧ t.binding? id name = some v := by
  have effect := r.actsBy_call caller args s
  refine ⟨fun fault t failed => ?_, fun v t done id name old changed => ?_⟩
  · rw [failed] at effect
    exact effect.spares_of_error
  · rw [done] at effect
    exact effect.changed_of_ok old changed

/-- A library is loaded from two instances.  One has no field of its name, so the call fails when the
library is made already; the other has one, and it is bound to the library. -/
theorem failing_call_changes_nothing_refused :
    let load : Routine := ⟨0, .builtin .load⟩
    let s := (Store.empty.newInstance [("x", .bool false)]).2
    let refused := load.call ⟨0⟩ [.string "math"] s
    let t := (Store.empty.newInstance [("math", .bool false)]).2
    let loaded := load.call ⟨0⟩ [.string "math"] t
    refused.1 = .error (.fieldMissing "math") ∧ refused.2.scopes.size = 2 ∧ s.Spares refused.2 ∧
    loaded.1 = .ok (.scope ⟨1⟩) ∧ loaded.2.binding? ⟨0⟩ "math" ≠ t.binding? ⟨0⟩ "math" ∧
    loaded.2.binding? ⟨0⟩ "math" = some (.scope ⟨1⟩) := by
  intro load s refused t loaded
  have failed : refused.1 = .error (.fieldMissing "math") := rfl
  have done : loaded.1 = .ok (.scope ⟨1⟩) := rfl
  have before : t.binding? ⟨0⟩ "math" = some (.bool false) := rfl
  have changed : loaded.2.binding? ⟨0⟩ "math" ≠ t.binding? ⟨0⟩ "math" := by
    rw [before, show loaded.2.binding? ⟨0⟩ "math" = some (.scope ⟨1⟩) from rfl]
    simp
  have spares := (failing_call_changes_nothing load ⟨0⟩ [.string "math"] s).1 _ refused.2
    (Prod.ext failed rfl)
  have written := (failing_call_changes_nothing load ⟨0⟩ [.string "math"] t).2 _ loaded.2
    (Prod.ext done rfl) ⟨0⟩ "math" Nat.one_pos changed
  exact ⟨failed, rfl, spares, done, changed, written.2.2.2.2⟩

end Scriptlet
