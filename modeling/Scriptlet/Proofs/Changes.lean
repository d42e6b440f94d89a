import Mathlib.Logic.Relation
import Scriptlet.Proofs.Bindings
import Scriptlet.Proofs.Lockstep
set_option autoImplicit false

/-!
# Changes of a store

Whatever a program does to a store is made of five small changes: a name is bound in a scope, a
scope is made, routines are counted, a line is printed, and an output is opened.  What each of them
leaves alone is therefore left alone by whole programs: a scope keeps its label, its parent and
whether it is an instance, an instance keeps its names, and what was printed stays printed.

A census says which scopes the values of a store may mention.  With the census of the existing
scopes the changes also keep a store from mentioning scopes it does not have; with the one that
admits every scope nothing is asked of a program, and nothing is known of the scopes it mentions.
-/

namespace Scriptlet

/-! ## Mentioned scopes -/

/-- The value is this scope, or an array with an item that mentions it. -/
inductive Value.Mentions (id : ScopeId) : Value → Prop where
  | scope : Mentions id (.scope id)
  | item {items : List Value} {v : Value} (member : v ∈ items) (inside : Mentions id v) :
      Mentions id (.array items)

/-- The scopes that a store of a given number of scopes may mention. -/
structure Census where
  admits : Nat → ScopeId → Prop
  mono : ∀ {n m : Nat} {id : ScopeId}, n ≤ m → admits n id → admits m id
  newest : ∀ n : Nat, admits (n + 1) ⟨n⟩

namespace Census

/-- Any scope may be mentioned. -/
def any : Census := ⟨fun _ _ => True, fun _ _ => trivial, fun _ => trivial⟩

/-- Only scopes that exist may be mentioned. -/
def existing : Census :=
  ⟨fun n id => id.index < n, fun more old => Nat.lt_of_lt_of_le old more, Nat.lt_succ_self⟩

end Census

/-- In a store of `n` scopes the value may stand. -/
def Value.Admitted (c : Census) (n : Nat) (v : Value) : Prop :=
  ∀ id, v.Mentions id → c.admits n id

namespace Value

variable {c : Census} {n m : Nat}

theorem Admitted.mono {v : Value} (more : n ≤ m) (admitted : v.Admitted c n) : v.Admitted c m :=
  fun id mentioned => c.mono more (admitted id mentioned)

theorem admitted_scope_iff {id : ScopeId} : (Value.scope id).Admitted c n ↔ c.admits n id := by
  constructor
  · intro admitted
    exact admitted id .scope
  · intro admitted other mentioned
    cases mentioned with
    | scope => exact admitted

theorem admitted_array_iff {items : List Value} :
    (Value.array items).Admitted c n ↔ ∀ v ∈ items, v.Admitted c n := by
  constructor
  · intro admitted v member id mentioned
    exact admitted id (.item member mentioned)
  · intro admitted id mentioned
    cases mentioned with
    | item member inside => exact admitted _ member id inside

/-- The value is neither a scope nor an array. -/
def IsAtom : Value → Prop
  | array _ | scope _ => False
  | _ => True

/-- Atoms mention nothing. -/
theorem IsAtom.admitted {v : Value} (atom : v.IsAtom) : v.Admitted c n := by
  rintro id (_ | _) <;> exact atom.elim

end Value

/-! ## Sound stores -/

/-- In a store of `n` scopes the values of the scope are admitted. -/
def Scope.Sound (c : Census) (n : Nat) (scope : Scope) : Prop :=
  ∀ ⦃entry : String × Value⦄, entry ∈ scope.bindings.entries → entry.2.Admitted c n

/-- All scopes of the store are sound. -/
def Store.Sound (c : Census) (s : Store) : Prop :=
  ∀ ⦃id : ScopeId⦄ ⦃scope : Scope⦄, s.scope? id = some scope → scope.Sound c s.scopes.size

theorem Scope.Sound.mono {c : Census} {n m : Nat} {scope : Scope} (more : n ≤ m)
    (sound : scope.Sound c n) : scope.Sound c m :=
  fun _ bound => (sound bound).mono more

theorem Scope.Sound.insert {c : Census} {n : Nat} {scope : Scope} (sound : scope.Sound c n)
    {name : String} {value : Value} (admitted : value.Admitted c n) :
    Scope.Sound c n { scope with bindings := scope.bindings.insert name value } := by
  intro entry bound
  rcases Bindings.mem_entries_insert bound with rfl | earlier
  · exact admitted
  · exact sound earlier

/-- Where every scope may be mentioned, every store is sound. -/
theorem Store.sound_any (s : Store) : s.Sound .any := fun _ _ _ _ _ _ _ => trivial

theorem Store.sound_empty (c : Census) : Store.empty.Sound c := by
  intro id scope found
  simp [Store.empty, Store.scope?] at found

theorem Scope.Sound.get? {c : Census} {n : Nat} {scope : Scope} (sound : scope.Sound c n)
    {name : String} {v : Value} (found : scope.bindings.get? name = some v) : v.Admitted c n := by
  obtain ⟨entry, here, rfl⟩ := Option.map_eq_some_iff.mp found
  exact sound (List.mem_of_find?_eq_some here)

/-- In a scope without a parent only its own names are found. -/
theorem Store.lookup_of_root {s : Store} {id : ScopeId} {scope : Scope}
    (found : s.scope? id = some scope) (root : scope.parent = none) (name : String) :
    s.lookup id name = scope.bindings.get? name := by
  rw [Store.lookup_of_scope? found, root, Option.bind_none, Option.or_none]

namespace Store.Sound

variable {c : Census} {s : Store}

/-- What is looked up is a value of some scope, so it is admitted. -/
theorem lookup (sound : s.Sound c) {id : ScopeId} {name : String} {v : Value}
    (found : s.lookup id name = some v) : v.Admitted c s.scopes.size := by
  induction below : id.index using Nat.strongRecOn generalizing id with
  | ind index ih =>
    cases here : s.scope? id with
    | none =>
      rw [Store.lookup_of_none here] at found
      cases found
    | some scope =>
      rw [Store.lookup_of_scope? here, Option.or_eq_some_iff] at found
      rcases found with bound | ⟨_, above⟩
      · exact (sound here).get? bound
      -- the way up leads to smaller indices
      · obtain ⟨up, parent, found⟩ := Option.bind_eq_some_iff.mp above
        exact ih up.index (below ▸ Store.parent_lt here parent) found rfl

theorem resolve (sound : s.Sound c) {id : ScopeId} {name : String} {v : Value}
    (found : s.resolve id name = .ok v) : v.Admitted c s.scopes.size := by
  rw [Store.resolve] at found
  split at found
  · rename_i value looked
    cases found
    exact sound.lookup looked
  · cases found

end Store.Sound

/-! ## Small changes -/

/-- The small changes that programs are made of. -/
inductive Store.Change (c : Census) (s : Store) : Store → Prop where
  /-- a name is bound; in an instance only one it has already -/
  | bind {id : ScopeId} {scope : Scope} (found : s.scope? id = some scope) {name : String}
      (own : scope.fixed = true → name ∈ scope.bindings.names) {value : Value}
      (admitted : value.Admitted c s.scopes.size) :
      Change c s (s.setBindings id (scope.bindings.insert name value))
  /-- a scope is made -/
  | make {scope : Scope} (below : scope.ParentBelow s.scopes.size)
      (sound : scope.Sound c s.scopes.size) : Change c s (s.addScope scope below).2
  /-- routines are counted -/
  | count (routines : Nat) : Change c s (s.withRoutines routines)
  /-- a line is printed -/
  | print (line : String) (output : Output) : Change c s (s.writeLine line output)
  /-- an output is opened -/
  | openOutput (broken : Bool) : Change c s (s.openOutput broken).2

/-- The first store becomes the second by small changes. -/
def Store.Becomes (c : Census) : Store → Store → Prop := Relation.ReflTransGen (Store.Change c)

namespace Store.Change

variable {c : Census} {s t : Store}

theorem size_le (change : s.Change c t) : s.scopes.size ≤ t.scopes.size := by
  cases change with
  | bind found own admitted => simp [setBindings]
  | make below sound => simp [addScope]
  | count routines => exact Nat.le_refl _
  | print line output => cases output <;> exact Nat.le_refl _
  | openOutput broken => exact Nat.le_refl _

/-- A scope that is there stays as it is, or has one more name bound in it. -/
theorem old_scope (change : s.Change c t) {id : ScopeId} {scope : Scope}
    (old : s.scope? id = some scope) :
    t.scope? id = some scope ∨
      ∃ name value, (scope.fixed = true → name ∈ scope.bindings.names) ∧
        value.Admitted c s.scopes.size ∧
        t.scope? id = some { scope with bindings := scope.bindings.insert name value } := by
  cases change with
  | @bind target scope' found name own value admitted =>
    rw [scope?_setBindings]
    by_cases here : target = id
    · subst here
      cases found.symm.trans old
      rw [if_pos rfl, old]
      exact .inr ⟨name, value, own, admitted, rfl⟩
    · rw [if_neg here]
      exact .inl old
  | make below sound =>
    exact .inl ((scope?_addScope_old (lt_size_of_scope? old) below).trans old)
  | count routines => exact .inl old
  | print line output => cases output <;> exact .inl old
  | openOutput broken => exact .inl old

/-- A scope that was not there is sound when it is made. -/
theorem new_scope (change : s.Change c t) {id : ScopeId} {scope : Scope}
    (new : s.scope? id = none) (found : t.scope? id = some scope) :
    scope.Sound c s.scopes.size := by
  cases change with
  | @bind target scope' =>
    rw [scope?_setBindings, new] at found
    split at found <;> cases found
  | @make made below sound =>
    rw [scope?, addScope] at found
    -- only the identity that follows all others can be new
    by_cases last : id.index = s.scopes.size
    · rw [last, Array.getElem?_push_size] at found
      cases found
      exact sound
    · have bound := lt_size_of_scope? (k := id) found
      rw [Array.size_push] at bound
      rw [scope?, Array.getElem?_eq_none_iff] at new
      omega
  | count routines => cases new.symm.trans found
  | print line output => cases output <;> cases new.symm.trans found
  | openOutput broken => cases new.symm.trans found

theorem sound (change : s.Change c t) (before : s.Sound c) : t.Sound c := by
  intro id scope found
  have more := change.size_le
  cases old : s.scope? id with
  | none => exact (change.new_scope old found).mono more
  | some earlier =>
    have sound := before old
    rcases change.old_scope old with same | ⟨name, value, _, admitted, bound⟩
    · cases found.symm.trans same
      exact sound.mono more
    · cases found.symm.trans bound
      exact (sound.insert admitted).mono more

/-- What never changes of a scope. -/
theorem frame (change : s.Change c t) {id : ScopeId} {scope : Scope}
    (old : s.scope? id = some scope) : (t.scope? id).map Scope.frame = some scope.frame := by
  rcases change.old_scope old with same | ⟨name, value, _, _, bound⟩
  · rw [same]
    rfl
  · rw [bound]
    rfl

/-- What was printed stays printed. -/
theorem written (change : s.Change c t) : ∃ text, t.sink.written = s.sink.written ++ text := by
  have unchanged : ∃ text, s.sink.written = s.sink.written ++ text := ⟨"", by simp⟩
  cases change with
  | bind found own admitted => exact unchanged
  | make below sound => exact unchanged
  | count routines => exact unchanged
  | openOutput broken => exact unchanged
  | print line output =>
    cases output with
    | other index => exact unchanged
    | standard =>
      simp only [writeLine, Sink.writeLine]
      split
      · exact unchanged
      · exact ⟨line ++ "\n", String.append_assoc⟩

end Store.Change

namespace Store.Becomes

variable {c : Census} {s t : Store}

theorem refl (s : Store) : s.Becomes c s := Relation.ReflTransGen.refl

theorem trans {u : Store} (first : s.Becomes c t) (second : t.Becomes c u) : s.Becomes c u :=
  Relation.ReflTransGen.trans first second

theorem single (change : s.Change c t) : s.Becomes c t := Relation.ReflTransGen.single change

theorem size_le (becomes : s.Becomes c t) : s.scopes.size ≤ t.scopes.size := by
  induction becomes with
  | refl => exact Nat.le_refl _
  | tail _ change ih => exact Nat.le_trans ih change.size_le

theorem sound (becomes : s.Becomes c t) (before : s.Sound c) : t.Sound c := by
  induction becomes with
  | refl => exact before
  | tail _ change ih => exact change.sound ih

theorem frame (becomes : s.Becomes c t) {id : ScopeId} {scope : Scope}
    (old : s.scope? id = some scope) : (t.scope? id).map Scope.frame = some scope.frame := by
  induction becomes with
  | refl => rw [old, Option.map_some]
  | tail _ change ih =>
    obtain ⟨between, found, same⟩ := Option.map_eq_some_iff.mp ih
    rw [← same]
    exact change.frame found

theorem written (becomes : s.Becomes c t) :
    ∃ text, t.sink.written = s.sink.written ++ text := by
  induction becomes with
  | refl => exact ⟨"", by simp⟩
  | tail _ change ih =>
    obtain ⟨first, early⟩ := ih
    obtain ⟨second, late⟩ := change.written
    exact ⟨first ++ second, by rw [late, early, String.append_assoc]⟩

end Store.Becomes

/-! ## Steps made of small changes -/

/-- From every sound store with at least `n` scopes the step leads on by small changes, and a result
is as `R` says for the number of scopes there are then. -/
def Action.Traced {α : Type} (c : Census) (n : Nat) (R : Nat → α → Prop) (a : Action α) : Prop :=
  ∀ s : Store, s.Sound c → n ≤ s.scopes.size →
    s.Becomes c (a s).2 ∧ ∀ x, (a s).1 = .ok x → R (a s).2.scopes.size x

namespace Action.Traced

variable {α β : Type} {c : Census} {n : Nat} {R : Nat → α → Prop} {a : Action α}

theorem ask {read : Store → Except Fault α}
    (results : ∀ s : Store, s.Sound c → n ≤ s.scopes.size → ∀ x, read s = .ok x →
      R s.scopes.size x) : (Action.ask read).Traced c n R :=
  fun s sound enough => ⟨.refl s, results s sound enough⟩

theorem ofExcept {result : Except Fault α}
    (results : ∀ m, n ≤ m → ∀ x, result = .ok x → R m x) : (Action.ofExcept result).Traced c n R :=
  ask fun _ _ enough => results _ enough

theorem pure {x : α} (holds : ∀ m, n ≤ m → R m x) : (Pure.pure x : Action α).Traced c n R :=
  ofExcept fun m more y done => by
    cases done
    exact holds m more

theorem fail (fault : Fault) : (Action.fail fault : Action α).Traced c n R :=
  ofExcept fun _ _ _ done => nomatch done

theorem bind {Q : Nat → β → Prop} {f : α → Action β} (first : a.Traced c n R)
    (next : ∀ m x, n ≤ m → R m x → (f x).Traced c m Q) : (a >>= f).Traced c n Q := by
  intro s sound enough
  obtain ⟨becomes, results⟩ := first s sound enough
  cases done : a s with
  | mk result between =>
    rw [done] at becomes results
    cases result with
    | error fault =>
      rw [Action.bind_of_error done]
      exact ⟨becomes, fun _ done => nomatch done⟩
    | ok x =>
      rw [Action.bind_of_ok done]
      obtain ⟨later, ends⟩ := next _ x (Nat.le_trans enough becomes.size_le) (results x rfl)
        between (becomes.sound sound) (Nat.le_refl _)
      exact ⟨becomes.trans later, ends⟩

theorem mono {Q : Nat → α → Prop} (traced : a.Traced c n R) (results : ∀ m x, R m x → Q m x) :
    a.Traced c n Q :=
  fun s sound enough => (traced s sound enough).imp id fun holds x done => results _ x (holds x done)

/-- What is only read leaves the scopes as many as they were. -/
theorem ask_bind {Q : Nat → β → Prop} {read : Store → Except Fault α} {f : α → Action β}
    (next : ∀ x, (f x).Traced c n Q) : (Action.ask read >>= f).Traced c n Q :=
  .bind (R := fun _ _ => True) (.ask fun _ _ _ _ _ => trivial) fun _ x more _ s sound enough =>
    next x s sound (Nat.le_trans more enough)

/-- A result is one that the step really has. -/
theorem produced (traced : a.Traced c n R) :
    a.Traced c n fun m x => R m x ∧ ∃ s after, a s = (.ok x, after) := by
  intro s sound enough
  obtain ⟨becomes, results⟩ := traced s sound enough
  exact ⟨becomes, fun x done => ⟨results x done, s, (a s).2, Prod.ext done rfl⟩⟩

end Action.Traced

/-! ## Writing names -/

theorem traced_declare {c : Census} {n : Nat} (id : ScopeId) (name : String) {value : Value}
    (admitted : value.Admitted c n) :
    (declare id name value).Traced c n fun _ _ => True := by
  intro s _ enough
  refine ⟨?_, fun _ _ => trivial⟩
  rw [declare]
  split
  · exact .refl s
  rename_i scope found
  split
  · exact .refl s
  rename_i allowed
  refine .single (.bind found (fun fixed => ?_) (admitted.mono enough))
  rw [← Bindings.contains_iff]
  simpa [fixed] using allowed

/-- What an operator gives is an atom. -/
theorem Operator.isAtom_apply {op : Operator} {left right v : Value}
    (done : op.apply left right = .ok v) : v.IsAtom := by
  have number (f : Float → Float → Float) (done : arithmetic f left right = .ok v) :
      v.IsAtom := by
    rw [arithmetic] at done
    split at done
    · cases done
    split at done <;> cases done
    trivial
  cases op with
  | equal | unequal =>
    cases done
    trivial
  | add | sub | mul | div | rem | pow => exact number _ done
  | separator | declare | addTo | subTo | mulTo | divTo => cases done

theorem traced_changeBy {c : Census} {n : Nat} (id : ScopeId) (name : String) (value : Value)
    (op : Operator) : (changeBy id name value op).Traced c n fun _ v => v.IsAtom := by
  refine .ask_bind fun present => ?_
  refine .bind (R := fun _ v => v.IsAtom) (.ofExcept fun _ _ _ => Operator.isAtom_apply) ?_
  intro m next _ atom
  exact .bind (traced_declare id name atom.admitted) fun _ _ _ _ => .pure fun _ _ => atom

end Scriptlet
