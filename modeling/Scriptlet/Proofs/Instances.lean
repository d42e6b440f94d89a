import Scriptlet.Proofs.Operations
set_option autoImplicit false

/-!
# Structure instances keep their shape

The maker of a structure gives an instance when it is called with one value for each field: a new
scope without a parent that has exactly the names of the fields, each of them with the value given
for it last.  From then on the instance has these names, whatever is done with the store, and
assignments to any other name fail and change nothing.
-/

namespace Scriptlet

/-- The scope is a structure instance without a parent, and these are its names. -/
def Store.HasShape (s : Store) (id : ScopeId) (names : List String) : Prop :=
  ∃ scope, s.scope? id = some scope ∧ scope.fixed = true ∧ scope.parent = none ∧
    scope.bindings.names = names

/-! ## The shape is kept -/

/-- What one small change keeps. -/
theorem Store.Change.hasShape {c : Census} {s t : Store} (change : s.Change c t) {id : ScopeId}
    {names : List String} (shape : s.HasShape id names) : t.HasShape id names := by
  obtain ⟨scope, found, fixed, root, same⟩ := shape
  rcases change.old_scope found with kept | ⟨name, value, own, _, bound⟩
  · exact ⟨scope, kept, fixed, root, same⟩
  · refine ⟨_, bound, fixed, root, ?_⟩
    exact (Bindings.names_insert (own fixed) value).trans same

theorem Store.Becomes.hasShape {c : Census} {s t : Store} (becomes : s.Becomes c t) {id : ScopeId}
    {names : List String} (shape : s.HasShape id names) : t.HasShape id names := by
  induction becomes with
  | refl => exact shape
  | tail _ change ih => exact change.hasShape ih

namespace Store.HasShape

variable {s : Store} {id : ScopeId} {names : List String}

/-- What every run of operations keeps. -/
theorem perform (shape : s.HasShape id names) (ops : List Operation) :
    (s.perform ops).HasShape id names :=
  (Store.becomes_perform s.sound_any (s.provides_any ops)).hasShape shape

theorem names_eq (shape : s.HasShape id names) : s.names id = names := by
  obtain ⟨scope, found, _, _, same⟩ := shape
  rw [Store.names, found]
  exact same

theorem isInstance (shape : s.HasShape id names) : s.isInstance id = true := by
  obtain ⟨scope, found, fixed, _⟩ := shape
  rw [Store.isInstance, found]
  exact fixed

/-! ## Other names -/

variable {name : String}

theorem lookup_eq_none (shape : s.HasShape id names) (outside : name ∉ names) :
    s.lookup id name = none := by
  obtain ⟨scope, found, _, root, rfl⟩ := shape
  rw [Store.lookup_of_root found root, Bindings.get?_eq_none_iff]
  exact outside

theorem resolve_eq (shape : s.HasShape id names) (outside : name ∉ names) :
    s.resolve id name = .error (.unresolved name) := by
  rw [Store.resolve, shape.lookup_eq_none outside]

theorem declare_eq (shape : s.HasShape id names) (outside : name ∉ names) (value : Value) :
    declare id name value s = (.error (.fieldMissing name), s) := by
  obtain ⟨scope, found, fixed, _, rfl⟩ := shape
  have missing : scope.bindings.contains name = false := by
    rw [Bool.eq_false_iff, ne_eq, Bindings.contains_iff]
    exact outside
  simp only [declare, found, fixed, missing, Bool.not_false, Bool.and_self, if_true]

theorem changeBy_eq (shape : s.HasShape id names) (outside : name ∉ names) (value : Value)
    (op : Operator) : changeBy id name value op s = (.error (.neverDeclared name), s) := by
  refine Action.bind_of_error ?_
  rw [Action.ask_apply, shape.lookup_eq_none outside]

/-- A plain assignment is refused by the instance, a compound one finds nothing to change. -/
theorem commit_eq (shape : s.HasShape id names) (outside : name ∉ names) {op : Operator}
    (assigns : op.isDeclaration = true) (value : Value) :
    (Mutation.mk ⟨id, name⟩ op value).commit s =
      (.error (if op = .declare then .fieldMissing name else .neverDeclared name), s) := by
  cases op with
  | declare => exact Action.bind_of_error (shape.declare_eq outside value)
  | addTo | subTo | mulTo | divTo => exact shape.changeBy_eq outside value _
  | separator | equal | unequal | add | sub | mul | div | rem | pow => cases assigns

end Store.HasShape

/-! ## Making instances -/

/-- Of the values given for a field the last one is bound. -/
theorem Bindings.get?_ofList_zip {fields : List String} {values : List Value} {k : Nat}
    {name : String} {v : Value} (field : fields[k]? = some name) (value : values[k]? = some v)
    (last : ∀ later, k < later → fields[later]? ≠ some name) :
    (ofList (fields.zip values)).get? name = some v := by
  have here : (fields.zip values)[k]? = some (name, v) :=
    List.getElem?_zip_eq_some.mpr ⟨field, value⟩
  obtain ⟨bound, pair⟩ := List.getElem?_eq_some_iff.mp here
  have split : fields.zip values =
      (fields.zip values).take k ++ (name, v) :: (fields.zip values).drop (k + 1) := by
    rw [← pair, List.getElem_cons_drop, List.take_append_drop]
  have found : (fields.zip values).reverse.find? (fun pair => pair.1 == name) =
      some (name, v) := by
    refine List.find?_eq_some_iff_append.mpr
      ⟨beq_self_eq_true name, ((fields.zip values).drop (k + 1)).reverse,
        ((fields.zip values).take k).reverse, ?_, fun other member => ?_⟩
    · conv_lhs => rw [split]
      rw [List.reverse_append, List.reverse_cons, List.append_assoc]
      rfl
    -- a pair behind the `k`th one has another name
    · rw [List.mem_reverse, List.mem_drop_iff_getElem] at member
      obtain ⟨j, _, rfl⟩ := member
      rw [Bool.not_eq_true', beq_eq_false_iff_ne, List.getElem_zip]
      intro same
      exact last (k + 1 + j) (by omega) (List.getElem?_eq_some_iff.mpr ⟨_, same⟩)
  rw [get?_ofList, found]
  rfl

theorem Store.scope?_addScope_of_ne {s : Store} {scope : Scope}
    {below : scope.ParentBelow s.scopes.size} {id : ScopeId}
    (other : id ≠ (s.addScope scope below).1) :
    (s.addScope scope below).2.scope? id = s.scope? id := by
  obtain ⟨index⟩ := id
  have differs : index ≠ s.scopes.size := fun same => other (congrArg ScopeId.mk same)
  simp only [scope?, addScope, Array.getElem?_push, if_neg differs]

theorem Store.scope?_addScope_fresh (s : Store) {scope : Scope}
    (below : scope.ParentBelow s.scopes.size) : s.scope? (s.addScope scope below).1 = none :=
  Array.getElem?_eq_none (Nat.le_refl _)

theorem Library.fieldNames_map (fields : List String) :
    fieldNames (fields.map .string) = .ok fields := by
  induction fields with
  | nil => rfl
  | cons field rest ih =>
    rw [List.map_cons, fieldNames, ih]
    rfl

/-- The maker of a structure. -/
theorem Library.callBuiltin_structureOf (fields : List String) (caller : ScopeId) (s : Store) :
    callBuiltin .structureOf caller (fields.map .string) s =
      (.ok (.routine ⟨s.routines, .instantiate fields⟩), s.withRoutines 1) := by
  simp only [callBuiltin, fieldNames_map]
  rfl

theorem Library.instantiate_of_ne {fields : List String} {values : List Value}
    (differ : values.length ≠ fields.length) (name : String) (s : Store) :
    instantiate name fields values s =
      (.error (.fieldCount name fields.length values.length), s) :=
  congrFun (if_neg differ) s

theorem Library.instantiate_of_eq {fields : List String} {values : List Value}
    (agree : values.length = fields.length) (name : String) (s : Store) :
    instantiate name fields values s =
      (.ok (.scope (s.newInstance (fields.zip values)).1), (s.newInstance (fields.zip values)).2) :=
  congrFun (if_pos agree) s

theorem Store.lookup_newInstance (s : Store) (fields : List (String × Value)) (name : String) :
    (s.newInstance fields).2.lookup (s.newInstance fields).1 name =
      (Bindings.ofList fields).get? name :=
  Store.lookup_of_root (scope?_addScope_new s _) rfl name

/-- A structure instance is a scope with the names of the fields. -/
theorem Store.hasShape_newInstance (s : Store) (fields : List (String × Value)) :
    (s.newInstance fields).2.HasShape (s.newInstance fields).1 (Bindings.ofList fields).names :=
  ⟨_, scope?_addScope_new s _, rfl, rfl, rfl⟩

/-- Structure instances keep their shape.  The maker of a structure with some fields, repetitions
allowed, fails with code 250 and changes nothing when it is called with more or fewer values than
there are fields.  With as many it gives a new scope; its names are the distinct fields in ascending
order, and each is bound to the last value given for it.  After every run of operations, failing or
not, the scope has the same names, is an instance and has no parent; an assignment to any other name
of it fails, with code 310 or, if it is a compound one, 399, and leaves the store as it is, and
reading any other name fails with code 380. -/
theorem instances_keep_their_shape (fields : List String) (values : List Value)
    (definer : ScopeId) (start : Store) :
    ∃ (maker : Routine) (defined : Store),
      Library.callBuiltin .structureOf definer (fields.map .string) start =
        (.ok (.routine maker), defined) ∧
      ∀ (caller : ScopeId) (s : Store),
        (values.length ≠ fields.length →
          ∃ fault, maker.call caller values s = (.error fault, s) ∧ fault.code.number = 250) ∧
        (values.length = fields.length →
          ∃ (id : ScopeId) (made : Store), maker.call caller values s = (.ok (.scope id), made) ∧
            s.scope? id = none ∧
            (∀ other, other ≠ id → made.scope? other = s.scope? other) ∧
            (made.names id).Pairwise (· < ·) ∧
            (∀ name, name ∈ made.names id ↔ name ∈ fields) ∧
            (∀ (k : Nat) name v, fields[k]? = some name → values[k]? = some v →
              (∀ later, k < later → fields[later]? ≠ some name) →
              made.lookup id name = some v) ∧
            ∀ ops : List Operation,
              (made.perform ops).names id = made.names id ∧
              (made.perform ops).isInstance id = true ∧
              (∃ scope, (made.perform ops).scope? id = some scope ∧ scope.parent = none) ∧
              ∀ name, name ∉ fields →
                (∀ op value, op.isDeclaration = true →
                  ∃ fault, (Mutation.mk ⟨id, name⟩ op value).commit (made.perform ops) =
                      (.error fault, made.perform ops) ∧
                    fault.code.number = if op = .declare then 310 else 399) ∧
                ∃ fault, Label.resolve ⟨id, name⟩ (made.perform ops) = .error fault ∧
                  fault.code.number = 380) := by
  refine ⟨_, _, Library.callBuiltin_structureOf fields definer start, fun caller s => ⟨?_, ?_⟩⟩
  · intro differ
    exact ⟨_, Library.instantiate_of_ne differ _ s, rfl⟩
  intro agree
  have pairs : (fields.zip values).map Prod.fst = fields :=
    List.map_fst_zip (Nat.le_of_eq agree.symm)
  have shape := s.hasShape_newInstance (fields.zip values)
  have mem_names (name : String) :
      name ∈ (Bindings.ofList (fields.zip values)).names ↔ name ∈ fields := by
    rw [Bindings.mem_names_ofList, pairs]
  refine ⟨_, _, Library.instantiate_of_eq agree _ s, s.scope?_addScope_fresh _, ?_, ?_, ?_, ?_, ?_⟩
  · intro other differs
    exact Store.scope?_addScope_of_ne differs
  · rw [shape.names_eq]
    exact Bindings.ascending _
  · intro name
    rw [shape.names_eq, mem_names]
  · intro k name v field value last
    rw [s.lookup_newInstance]
    exact Bindings.get?_ofList_zip field value last
  · intro ops
    have kept := shape.perform ops
    refine ⟨kept.names_eq.trans shape.names_eq.symm, kept.isInstance, ?_, fun name outside => ?_⟩
    · obtain ⟨scope, found, _, root, _⟩ := kept
      exact ⟨scope, found, root⟩
    have missing := mt (mem_names name).mp outside
    refine ⟨fun op value assigns => ⟨_, kept.commit_eq missing assigns value, ?_⟩,
      _, kept.resolve_eq missing, rfl⟩
    split <;> rfl

end Scriptlet
