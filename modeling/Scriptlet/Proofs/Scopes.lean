import Mathlib.Data.List.Basic
import Mathlib.Order.WellFounded
import Scriptlet.Proofs.Operations
set_option autoImplicit false

/-!
# Scopes and their parents

A store that was built up by operations mentions only scopes that it has, even where bindings go in
circles: a structure may hold itself.  Parents are older than their children, so the way up from any
scope comes to an end at a scope without a parent, and a name means what it is bound to in the first
scope on that way that binds it.
-/

namespace Scriptlet

namespace Store

/-! ## The way up -/

/-- The first scope is the parent of the second. -/
def IsParent (s : Store) (up id : ScopeId) : Prop :=
  ∃ scope, s.scope? id = some scope ∧ scope.parent = some up

/-- The scopes on the way up, from the scope itself to one without a parent. -/
inductive WayUp (s : Store) : ScopeId → List ScopeId → Prop where
  | root {id : ScopeId} {scope : Scope} (found : s.scope? id = some scope)
      (root : scope.parent = none) : WayUp s id [id]
  | child {id up : ScopeId} {scope : Scope} {way : List ScopeId} (found : s.scope? id = some scope)
      (parent : scope.parent = some up) (rest : WayUp s up way) : WayUp s id (id :: way)

/-- What the scope itself binds a name to. -/
def binding? (s : Store) (id : ScopeId) (name : String) : Option Value :=
  (s.scope? id).bind fun scope => scope.bindings.get? name

theorem binding?_eq {s : Store} {id : ScopeId} {scope : Scope} (found : s.scope? id = some scope)
    (name : String) : s.binding? id name = scope.bindings.get? name := by
  rw [binding?, found, Option.bind_some]

theorem binding?_eq_none_iff {s : Store} {id : ScopeId} {name : String} :
    s.binding? id name = none ↔ name ∉ s.names id := by
  rw [binding?, names]
  cases s.scope? id with
  | none => simp
  | some scope => exact Bindings.get?_eq_none_iff

/-! ## Sound stores -/

theorem exists_scope_of_lt {s : Store} {id : ScopeId} (old : id.index < s.scopes.size) :
    ∃ scope, s.scope? id = some scope :=
  ⟨_, Array.getElem?_eq_getElem old⟩

variable {s : Store}

theorem Sound.exists_mentioned (sound : s.Sound .existing) {id other : ScopeId} {scope : Scope}
    (found : s.scope? id = some scope) {entry : String × Value}
    (bound : entry ∈ scope.bindings.entries) (mentioned : entry.2.Mentions other) :
    ∃ mentioned, s.scope? other = some mentioned :=
  exists_scope_of_lt (sound found bound other mentioned)

/-! ## Parents are older -/

theorem IsParent.index_lt {up id : ScopeId} (parent : s.IsParent up id) : up.index < id.index := by
  obtain ⟨scope, found, above⟩ := parent
  exact parent_lt found above

/-- A scope made as the child of an existing one goes on to that scope. -/
theorem isParent_newChild {parent : ScopeId} (old : parent.index < s.scopes.size) :
    (s.newChild parent).2.IsParent parent (s.newChild parent).1 := by
  simp [IsParent, newChild, addScope, scope?, old]

theorem exists_parent {id up : ScopeId} {scope : Scope} (found : s.scope? id = some scope)
    (parent : scope.parent = some up) : ∃ above, s.scope? up = some above :=
  exists_scope_of_lt (Nat.lt_trans (parent_lt found parent) (lt_size_of_scope? found))

theorem wellFounded_isParent (s : Store) : WellFounded s.IsParent :=
  Subrelation.wf IsParent.index_lt (InvImage.wf ScopeId.index Nat.lt_wfRel.wf)

theorem index_lt_of_transGen {a b : ScopeId} (above : Relation.TransGen s.IsParent a b) :
    a.index < b.index := by
  induction above with
  | single parent => exact parent.index_lt
  | tail _ parent ih => exact Nat.lt_trans ih parent.index_lt

/-- From every scope there is a way up. -/
theorem exists_wayUp {id : ScopeId} {scope : Scope} (found : s.scope? id = some scope) :
    ∃ way, s.WayUp id way := by
  induction index : id.index using Nat.strongRecOn generalizing id scope with
  | ind n ih =>
    cases parent : scope.parent with
    | none => exact ⟨[id], .root found parent⟩
    | some up =>
      obtain ⟨above, there⟩ := exists_parent found parent
      obtain ⟨way, rest⟩ := ih up.index (index ▸ parent_lt found parent) there rfl
      exact ⟨id :: way, .child found parent rest⟩

/-- The way up leads to older scopes only. -/
theorem WayUp.older {id : ScopeId} {way : List ScopeId} (up : s.WayUp id way) :
    (∀ other ∈ way, other.index ≤ id.index) ∧ way.Nodup := by
  induction up with
  | root found root => simp
  | @child id above scope way found parent rest ih =>
    have older := parent_lt found parent
    refine ⟨fun other member => ?_, List.nodup_cons.mpr ⟨fun again => ?_, ih.2⟩⟩
    · rcases List.mem_cons.mp member with rfl | later
      · exact Nat.le_refl _
      · exact Nat.le_of_lt (Nat.lt_of_le_of_lt (ih.1 other later) older)
    · exact absurd (ih.1 _ again) (Nat.not_le.mpr older)

/-- A lookup takes the first binding on the way up. -/
theorem WayUp.lookup_eq {id : ScopeId} {way : List ScopeId} (up : s.WayUp id way) (name : String) :
    s.lookup id name = way.findSome? fun other => s.binding? other name := by
  induction up with
  | root found root =>
    rw [lookup_of_root found root, List.findSome?_singleton, binding?_eq found]
  | @child _ _ scope _ found parent _ ih =>
    rw [lookup_of_scope? found, parent, Option.bind_some, ih, List.findSome?_cons,
      binding?_eq found]
    cases scope.bindings.get? name <;> rfl

/-- The binding of the nearest scope on a way. -/
theorem findSome?_binding?_eq_some_iff {s : Store} {way : List ScopeId} {name : String}
    {v : Value} :
    way.findSome? (fun other => s.binding? other name) = some v ↔
      ∃ nearer here farther, way = nearer ++ here :: farther ∧ s.binding? here name = some v ∧
        ∀ other ∈ nearer, name ∉ s.names other := by
  simp only [List.findSome?_eq_some_iff, binding?_eq_none_iff]

theorem findSome?_binding?_eq_none_iff {s : Store} {way : List ScopeId} {name : String} :
    way.findSome? (fun other => s.binding? other name) = none ↔
      ∀ other ∈ way, name ∉ s.names other := by
  simp only [List.findSome?_eq_none_iff, binding?_eq_none_iff]

end Store

/-- Stores stay well formed, and names are looked up on the way up.  Let a store be left by any run
of operations that are given existing scopes only, and let another such run follow.  Then every
parent of a scope and every scope mentioned in a binding exists, the relation of parents is well
founded and no scope is above itself; label, parent and kind of a scope are still the same after the
second run; and from every scope there is a way up to one without a parent, no scope occurs on it
twice, and a name has the value it is bound to in the first scope on the way that binds it, and none
exactly if no scope on the way does. -/
theorem scopes_well_formed (before after : List Operation)
    (provided : Store.empty.Provides .existing before)
    (more : (Store.empty.perform before).Provides .existing after) :
    let s := Store.empty.perform before
    let t := s.perform after
    (∀ id scope, s.scope? id = some scope →
      (∀ up, scope.parent = some up → ∃ above, s.scope? up = some above) ∧
      ∀ entry ∈ scope.bindings.entries, ∀ other, entry.2.Mentions other →
        ∃ mentioned, s.scope? other = some mentioned) ∧
    WellFounded s.IsParent ∧
    (∀ id, ¬ Relation.TransGen s.IsParent id id) ∧
    (∀ id scope, s.scope? id = some scope →
      ∃ later, t.scope? id = some later ∧ later.label = scope.label ∧
        later.parent = scope.parent ∧ later.fixed = scope.fixed) ∧
    ∀ id scope, s.scope? id = some scope →
      ∃ way, s.WayUp id way ∧ way.Nodup ∧
        ∀ name,
          (∀ v, s.lookup id name = some v ↔
            ∃ nearer here farther, way = nearer ++ here :: farther ∧
              s.binding? here name = some v ∧ ∀ other ∈ nearer, name ∉ s.names other) ∧
          (s.lookup id name = none ↔ ∀ other ∈ way, name ∉ s.names other) := by
  intro s t
  have empty := Store.sound_empty .existing
  have sound : s.Sound .existing := (Store.becomes_perform empty provided).sound empty
  have becomes : s.Becomes .existing t := Store.becomes_perform sound more
  refine ⟨fun id scope found => ⟨fun up => Store.exists_parent found,
      fun entry bound other => sound.exists_mentioned found bound⟩,
    s.wellFounded_isParent, fun id above => ?_, fun id scope found => ?_,
    fun id scope found => ?_⟩
  · exact absurd (Store.index_lt_of_transGen above) (Nat.lt_irrefl _)
  · obtain ⟨later, there, same⟩ := Option.map_eq_some_iff.mp (becomes.frame found)
    simp only [Scope.frame, Prod.mk.injEq] at same
    exact ⟨later, there, same⟩
  · obtain ⟨way, up⟩ := Store.exists_wayUp found
    refine ⟨way, up, up.older.2, fun name => ⟨fun v => ?_, ?_⟩⟩
    · rw [up.lookup_eq, Store.findSome?_binding?_eq_some_iff]
    · rw [up.lookup_eq, Store.findSome?_binding?_eq_none_iff]

/-- A structure that holds itself and is the parent of a scope, in which a line fails. -/
theorem scopes_well_formed_circular :
    let before : List Operation :=
      [.record [("self", .bool true)], .declare ⟨0⟩ "self" (.scope ⟨0⟩), .child ⟨0⟩]
    let after : List Operation := [.interpret {} ⟨1⟩ "self.self = self; x = 1 +"]
    let s := Store.empty.perform before
    Store.empty.Provides .existing before ∧ s.Provides .existing after ∧
      WellFounded s.IsParent ∧ s.IsParent ⟨0⟩ ⟨1⟩ ∧ ¬ Relation.TransGen s.IsParent ⟨0⟩ ⟨0⟩ ∧
      ∃ way, s.WayUp ⟨1⟩ way ∧ way.Nodup := by
  intro before after s
  have provided : Store.empty.Provides .existing before := by
    refine ⟨?_, ?_, ?_, trivial⟩
    · intro id passed
      cases passed with
      | field member inside =>
        cases List.mem_singleton.mp member
        cases inside
    · intro id passed
      cases passed with
      | declared inside =>
        cases inside
        exact Nat.one_pos
    · intro id passed
      cases passed
      exact Nat.one_pos
  have more : s.Provides .existing after := ⟨nofun, trivial⟩
  obtain ⟨_, founded, apart, _, ways⟩ := scopes_well_formed before after provided more
  obtain ⟨way, up, once, _⟩ := ways ⟨1⟩ _ rfl
  exact ⟨provided, more, founded, ⟨_, rfl, rfl⟩, apart ⟨0⟩, way, up, once⟩

end Scriptlet
