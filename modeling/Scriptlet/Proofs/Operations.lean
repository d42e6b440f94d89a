import Scriptlet.Proofs.Changes.Lines
set_option autoImplicit false

/-!
# Operations on a store

What can be done with a store from outside: scopes are made, names are written, libraries are
instantiated, routines are called and lines are interpreted.  Whether it fails or not, an operation
leaves a store behind, and the next one finds it.  Every run of operations is made of small changes.
-/

namespace Scriptlet

/-- Something that can be done with a store. -/
inductive Operation where
  /-- makes a scope without a parent -/
  | root (label : Option String)
  /-- makes a scope above another -/
  | child (parent : ScopeId)
  /-- makes a structure instance -/
  | record (fields : List (String × Value))
  /-- binds a name in a scope -/
  | declare (target : ScopeId) (name : String) (value : Value)
  /-- combines the value of a name with another -/
  | changeBy (target : ScopeId) (name : String) (value : Value) (op : Operator)
  /-- carries out a write that a declaration asks for -/
  | commit (m : Mutation)
  /-- opens an output -/
  | openOutput (broken : Bool)
  /-- makes a scope of built-in functions -/
  | builtins (library : Library)
  /-- makes a scope for a program -/
  | scope (library : Library)
  /-- loads a library -/
  | load (name : String)
  /-- calls a routine -/
  | call (routine : Routine) (caller : ScopeId) (args : List Value)
  /-- interprets a line -/
  | interpret (options : Options) (home : ScopeId) (line : String)

namespace Operation

/-- The store that an operation leaves, whether it fails or not. -/
def act (s : Store) : Operation → Store
  | root label => (s.newRoot label).2
  | child parent => (s.newChild parent).2
  | record fields => (s.newInstance fields).2
  | declare target name value => (Scriptlet.declare target name value s).2
  | changeBy target name value op => (Scriptlet.changeBy target name value op s).2
  | commit m => (m.commit s).2
  | openOutput broken => (s.openOutput broken).2
  | builtins library => (library.newBuiltins s).2
  | scope library => (library.newScope s).2
  | load name => (Library.load name s).2
  | call routine caller args => (routine.call caller args s).2
  | interpret options home line => (Scriptlet.interpret options home line s).2

/-- The operation is given this scope as a parent, or in a value. -/
inductive Passes (id : ScopeId) : Operation → Prop where
  | parent : Passes id (.child id)
  | field {fields : List (String × Value)} {field : String × Value} (member : field ∈ fields)
      (inside : field.2.Mentions id) : Passes id (.record fields)
  | declared {target : ScopeId} {name : String} {value : Value} (inside : value.Mentions id) :
      Passes id (.declare target name value)
  | written {m : Mutation} (inside : m.value.Mentions id) : Passes id (.commit m)
  | argument {routine : Routine} {caller : ScopeId} {args : List Value} {arg : Value}
      (member : arg ∈ args) (inside : arg.Mentions id) : Passes id (.call routine caller args)

/-- One operation is made of small changes. -/
theorem becomes_act {c : Census} {s : Store} (sound : s.Sound c) (op : Operation)
    (given : ∀ id, op.Passes id → c.admits s.scopes.size id) : s.Becomes c (op.act s) := by
  have enough := Nat.le_refl s.scopes.size
  cases op with
  | root label => exact s.becomes_newRoot c label
  | child parent => exact Store.becomes_newChild c s parent
  | record fields =>
    exact Store.becomes_newInstance fun field member id inside => given id (.field member inside)
  | declare target name value =>
    have admitted : value.Admitted c s.scopes.size := fun id inside => given id (.declared inside)
    exact (traced_declare target name admitted s sound enough).1
  | changeBy target name value op => exact (traced_changeBy target name value op s sound enough).1
  | commit m =>
    have admitted : m.value.Admitted c s.scopes.size := fun id inside => given id (.written inside)
    exact (traced_commit m admitted s sound enough).1
  | openOutput broken => exact .single (.openOutput broken)
  | builtins library => exact Library.becomes_install c s _ _
  | scope library => exact library.becomes_newScope c s
  | load name => exact (Library.traced_load name s sound enough).1
  | call routine caller args =>
    have admitted : Value.AllAdmitted c s.scopes.size args :=
      fun arg member id inside => given id (.argument member inside)
    exact (traced_call routine caller admitted s sound enough).1
  | interpret options home line => exact (traced_interpret options home line s sound enough).1

end Operation

/-! ## Runs -/

/-- The store that a run of operations leaves. -/
def Store.perform (s : Store) (ops : List Operation) : Store := ops.foldl Operation.act s

/-- Every operation of a run is given only scopes that the census admits when its turn comes. -/
def Store.Provides (c : Census) (s : Store) : List Operation → Prop
  | [] => True
  | op :: rest =>
    (∀ id, op.Passes id → c.admits s.scopes.size id) ∧ (op.act s).Provides c rest

namespace Store

theorem provides_any (s : Store) (ops : List Operation) : s.Provides .any ops := by
  induction ops generalizing s with
  | nil => trivial
  | cons op rest ih => exact ⟨fun _ _ => trivial, ih (op.act s)⟩

/-- A run of operations is made of small changes. -/
theorem becomes_perform {c : Census} {s : Store} (sound : s.Sound c) {ops : List Operation}
    (provided : s.Provides c ops) : s.Becomes c (s.perform ops) := by
  induction ops generalizing s with
  | nil => exact .refl s
  | cons op rest ih =>
    have first := op.becomes_act sound provided.1
    exact first.trans (ih (first.sound sound) provided.2)

end Store

end Scriptlet
