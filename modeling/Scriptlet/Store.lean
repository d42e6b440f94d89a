import Scriptlet.Bindings
set_option autoImplicit false

/-!
# The store

All scopes of a program live in one store and are named by their identity.  A scope may have a
parent, which is older than the scope itself; a name that a scope does not bind is looked up in its
parent.  Structure instances are scopes whose names are fixed.  The store also holds what was
printed and counts the routines that were made, so that each gets an identity of its own.
-/

namespace Scriptlet

/-- One scope: the names bound in it and the scope that a failed lookup goes on to. -/
structure Scope where
  label : Option String
  bindings : Bindings
  parent : Option ScopeId
  fixed : Bool

/-- Where printed lines go.  A broken sink loses them, which no program notices. -/
structure Sink where
  written : String
  broken : Bool
  deriving DecidableEq, Repr

/-- The text that arrives when a line is written. -/
def Sink.writeLine (sink : Sink) (line : String) : Sink :=
  if sink.broken then sink else { sink with written := sink.written ++ line ++ "\n" }

/-- The parent of a scope, if it has one, is among the first `n` scopes. -/
def Scope.ParentBelow (n : Nat) (scope : Scope) : Prop := ∀ up ∈ scope.parent, up.index < n

instance (n : Nat) (scope : Scope) : Decidable (scope.ParentBelow n) :=
  inferInstanceAs (Decidable (∀ up ∈ scope.parent, up.index < n))

theorem Scope.parentBelow_of_root {scope : Scope} (root : scope.parent = none) (n : Nat) :
    scope.ParentBelow n := by
  intro up parent
  rw [root] at parent
  cases parent

/-- Everything a program can read or change: scopes, the number of routines so far, the standard
output and the other outputs.  The parent of a scope is older than the scope. -/
structure Store where
  scopes : Array Scope
  routines : Nat
  sink : Sink
  others : Array Sink
  older : ∀ (i : Nat) (h : i < scopes.size), scopes[i].ParentBelow i := by decide

namespace Store

/-- The store before any program has run. -/
def empty : Store := { scopes := #[], routines := 0, sink := ⟨"", false⟩, others := #[] }

instance : Inhabited Store := ⟨empty⟩

/-- The scope with this identity. -/
def scope? (s : Store) (id : ScopeId) : Option Scope := s.scopes[id.index]?

theorem parent_lt {s : Store} {id up : ScopeId} {scope : Scope} (found : s.scope? id = some scope)
    (parent : scope.parent = some up) : up.index < id.index := by
  obtain ⟨old, rfl⟩ := Array.getElem?_eq_some_iff.mp found
  exact s.older id.index old up parent

/-- Adds a scope under a new identity. -/
def addScope (s : Store) (scope : Scope) (below : scope.ParentBelow s.scopes.size) :
    ScopeId × Store :=
  (⟨s.scopes.size⟩,
    { s with
      scopes := s.scopes.push scope
      older := by
        intro i bound
        rw [Array.getElem_push]
        split
        next old => exact s.older i old
        next new =>
          rw [Array.size_push] at bound
          rwa [show i = s.scopes.size by omega] })

/-- Replaces the bindings of a scope. -/
def setBindings (s : Store) (id : ScopeId) (bindings : Bindings) : Store :=
  { s with
    scopes := s.scopes.modify id.index fun scope => { scope with bindings }
    older := by
      intro i bound
      rw [Array.size_modify] at bound
      rw [Array.getElem_modify]
      split
      all_goals exact s.older i bound }

/-- The value of a name in a scope or, failing that, in the nearest older scope on the way up
through the parents. -/
def lookup (s : Store) (id : ScopeId) (name : String) : Option Value :=
  match _found : s.scope? id with
  | none => none
  | some scope =>
    match scope.bindings.get? name with
    | some value => some value
    | none =>
      match _parent : scope.parent with
      | none => none
      | some up => s.lookup up name
termination_by id.index
decreasing_by exact parent_lt _found _parent

theorem lookup_of_none {s : Store} {id : ScopeId} (missing : s.scope? id = none) (name : String) :
    s.lookup id name = none := by
  rw [lookup]
  split
  · rfl
  · rename_i found
    cases missing.symm.trans found

/-- A name means what the scope itself binds it to, and else what it means in the parent. -/
theorem lookup_of_scope? {s : Store} {id : ScopeId} {scope : Scope}
    (found : s.scope? id = some scope) (name : String) :
    s.lookup id name =
      (scope.bindings.get? name).or (scope.parent.bind fun up => s.lookup up name) := by
  rw [lookup]
  split
  · rename_i missing
    cases missing.symm.trans found
  · rename_i here
    cases here.symm.trans found
    split
    next bound => rw [bound, Option.some_or]
    next unbound =>
      rw [unbound, Option.none_or]
      split
      next root => rw [root, Option.bind_none]
      next parent => rw [parent, Option.bind_some]

/-! ## New scopes -/

/-- A scope without a parent, shown under `label` if it has one. -/
def newRoot (s : Store) (label : Option String) : ScopeId × Store :=
  s.addScope { label, bindings := .empty, parent := none, fixed := false }
    (Scope.parentBelow_of_root rfl _)

/-- An empty scope whose lookups go on to `parent`; they end in the scope itself if there is no such
parent. -/
def newChild (s : Store) (parent : ScopeId) : ScopeId × Store :=
  s.addScope
    { label := none
      bindings := .empty
      parent := if parent.index < s.scopes.size then some parent else none
      fixed := false }
    (by
      intro up above
      simp only at above
      split at above <;> cases above
      assumption)

/-- A structure instance: a scope that holds exactly these fields. -/
def newInstance (s : Store) (fields : List (String × Value)) : ScopeId × Store :=
  s.addScope { label := none, bindings := .ofList fields, parent := none, fixed := true }
    (Scope.parentBelow_of_root rfl _)

/-! ## Views of a scope -/

/-- The names bound in the scope itself. -/
def names (s : Store) (id : ScopeId) : List String :=
  ((s.scope? id).map fun scope => scope.bindings.names).getD []

/-- The label of the scope. -/
def label? (s : Store) (id : ScopeId) : Option String := (s.scope? id).bind Scope.label

/-- Whether the scope is a structure instance. -/
def isInstance (s : Store) (id : ScopeId) : Bool := ((s.scope? id).map Scope.fixed).getD false

/-! ## Output -/

/-- Opens an output besides the standard one. -/
def openOutput (s : Store) (broken : Bool) : Output × Store :=
  (.other s.others.size, { s with others := s.others.push ⟨"", broken⟩ })

/-- Writes a line to an output. -/
def writeLine (s : Store) (line : String) : Output → Store
  | .standard => { s with sink := s.sink.writeLine line }
  | .other index => { s with others := s.others.modify index fun sink => sink.writeLine line }

/-- Takes out what was printed to the standard output since the last time. -/
def takePrinted (s : Store) : String × Store :=
  (s.sink.written, { s with sink := { s.sink with written := "" } })

end Store

end Scriptlet
