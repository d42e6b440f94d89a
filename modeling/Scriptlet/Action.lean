import Scriptlet.Store
set_option autoImplicit false

/-!
# Actions

A step of a program reads and changes the store and may fail.  A step that fails keeps what it
wrote before it failed; only what would have followed is left out.
-/

namespace Scriptlet

/-- A step on the store that gives a result or a fault, and the store it leaves. -/
def Action (α : Type) : Type := Store → Except Fault α × Store

namespace Action

variable {α β : Type}

/-- Gives a result and leaves the store alone. -/
protected def pure (a : α) : Action α := fun store => (.ok a, store)

/-- Goes on with the result of the first step; its fault ends the whole. -/
protected def bind (first : Action α) (next : α → Action β) : Action β := fun store =>
  match first store with
  | (.ok a, after) => next a after
  | (.error fault, after) => (.error fault, after)

instance : Monad Action where
  pure := Action.pure
  bind := Action.bind

/-- Fails and leaves the store alone. -/
def fail (fault : Fault) : Action α := fun store => (.error fault, store)

/-- A result or fault that needs no store. -/
def ofExcept (result : Except Fault α) : Action α := fun store => (result, store)

/-- A result or fault that is read off the store. -/
def ask (read : Store → Except Fault α) : Action α := fun store => (read store, store)

/-- Makes something new in the store. -/
def create (make : Store → α × Store) : Action α := fun store =>
  ((.ok (make store).1), (make store).2)

@[simp] theorem pure_apply (a : α) (store : Store) :
    (pure a : Action α) store = (.ok a, store) := rfl

theorem bind_apply (first : Action α) (next : α → Action β) (store : Store) :
    (first >>= next) store =
      match first store with
      | (.ok a, after) => next a after
      | (.error fault, after) => (.error fault, after) := rfl

@[simp] theorem fail_apply (fault : Fault) (store : Store) :
    (fail fault : Action α) store = (.error fault, store) := rfl

@[simp] theorem ofExcept_apply (result : Except Fault α) (store : Store) :
    ofExcept result store = (result, store) := rfl

@[simp] theorem ask_apply (read : Store → Except Fault α) (store : Store) :
    ask read store = (read store, store) := rfl

theorem bind_of_ok {first : Action α} {next : α → Action β} {store between : Store} {a : α}
    (done : first store = (.ok a, between)) : (first >>= next) store = next a between := by
  rw [bind_apply, done]

theorem bind_of_error {first : Action α} {next : α → Action β} {store between : Store}
    {fault : Fault} (failed : first store = (.error fault, between)) :
    (first >>= next) store = (.error fault, between) := by
  rw [bind_apply, failed]

/-- A step sequence that succeeds is two steps that succeed. -/
theorem bind_ok {first : Action α} {next : α → Action β} {store after : Store} {b : β}
    (done : (first >>= next) store = (.ok b, after)) :
    ∃ a between, first store = (.ok a, between) ∧ next a between = (.ok b, after) := by
  rw [bind_apply] at done
  split at done
  · exact ⟨_, _, by assumption, done⟩
  · cases done

/-- A step sequence that fails has failed in its first step or in what followed. -/
theorem bind_error {first : Action α} {next : α → Action β} {store after : Store} {fault : Fault}
    (failed : (first >>= next) store = (.error fault, after)) :
    first store = (.error fault, after) ∨
      ∃ a between, first store = (.ok a, between) ∧ next a between = (.error fault, after) := by
  rw [bind_apply] at failed
  split at failed
  · exact .inr ⟨_, _, by assumption, failed⟩
  · cases failed
    exact .inl (by assumption)

instance : LawfulMonad Action :=
  LawfulMonad.mk' Action
    (by
      intro α x
      funext store
      show (match x store with
        | (.ok a, after) => (Except.ok (id a), after)
        | (.error fault, after) => (Except.error fault, after)) = x store
      split <;> simp_all)
    (by intros; rfl)
    (by
      intro α β γ x f g
      funext store
      simp only [bind_apply]
      cases x store with
      | mk outcome after => cases outcome <;> rfl)

end Action

/-! ## Reading and writing names -/

/-- The value of a name, which must have one. -/
def Store.resolve (s : Store) (id : ScopeId) (name : String) : Except Fault Value :=
  match s.lookup id name with
  | some value => .ok value
  | none => .error (.unresolved name)

/-- Binds a name in the scope itself, whatever its parents bind.  A structure instance takes only
its own fields. -/
def declare (id : ScopeId) (name : String) (value : Value) : Action Unit := fun store =>
  match store.scope? id with
  | none => (.ok (), store)
  | some scope =>
    if scope.fixed && !scope.bindings.contains name then (.error (.fieldMissing name), store)
    else (.ok (), store.setBindings id (scope.bindings.insert name value))

/-- Binds a name to its present value combined with another, and gives the new value.  The present
value may come from a parent; the new one is bound in the scope itself. -/
def changeBy (id : ScopeId) (name : String) (value : Value) (op : Operator) : Action Value := do
  let present ← Action.ask fun store =>
    match store.lookup id name with
    | some present => .ok present
    | none => .error (.neverDeclared name)
  let next ← Action.ofExcept (op.apply present value)
  declare id name next
  return next

end Scriptlet
