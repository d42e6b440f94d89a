import Scriptlet.Library
import Scriptlet.Proofs.Renaming
set_option autoImplicit false

/-!
# Steps in lockstep

Two steps on related stores go in lockstep if they end with the same fault or with related results,
and leave related stores.  On the way the world may grow by what both have made, and in the first
store nothing changes but the scopes that the program holds.  Steps that are put together from steps
in lockstep are in lockstep.
-/

namespace Scriptlet

/-! ## Results -/

/-- Results that differ in identities only: the same fault, or related values. -/
inductive Alike {α β : Type} (R : α → β → Prop) : Except Fault α → Except Fault β → Prop where
  | ok {a : α} {b : β} (same : R a b) : Alike R (.ok a) (.ok b)
  | error (fault : Fault) : Alike R (.error fault) (.error fault)

namespace Alike

variable {α β γ δ : Type} {R : α → β → Prop} {x : Except Fault α} {y : Except Fault β}

theorem of_eq {x y : Except Fault α} (same : x = y) : Alike (· = ·) x y := by
  subst same
  cases x with
  | ok a => exact .ok rfl
  | error fault => exact .error fault

theorem bind {Q : γ → δ → Prop} {f : α → Except Fault γ} {g : β → Except Fault δ}
    (alike : Alike R x y) (next : ∀ a b, R a b → Alike Q (f a) (g b)) :
    Alike Q (x >>= f) (y >>= g) := by
  cases alike with
  | ok same => exact next _ _ same
  | error fault => exact .error fault

end Alike

/-! ## What a step leaves alone -/

/-- The world has grown by scopes that are new to the store `s`. -/
structure World.Grows (w : World) (s : Store) (later : World) : Prop extends w.Within later where
  origin : later.origin = w.origin
  known_new : ∀ {i j}, later.known i j → w.known i j ∨ s.scopes.size ≤ i.index
  held_new : ∀ {i j}, later.held i j → w.held i j ∨ s.scopes.size ≤ i.index

/-- Both stores have the same outputs, broken or not. -/
def Store.SameOutputs (s t : Store) : Prop :=
  ∀ output, (s.output? output).map Sink.broken = (t.output? output).map Sink.broken

/-- What never changes of a scope: all but its bindings. -/
def Scope.frame (scope : Scope) : Option String × Option ScopeId × Bool :=
  (scope.label, scope.parent, scope.fixed)

/-- Scopes that are not owned stay as they are, of those that are owned only the bindings change, and
the outputs may only have been written to. -/
structure Store.Keeps (owned : ScopeId → Prop) (s after : Store) : Prop where
  size : s.scopes.size ≤ after.scopes.size
  routines : s.routines ≤ after.routines
  scopes : ∀ {i : ScopeId}, i.index < s.scopes.size → ¬ owned i → after.scope? i = s.scope? i
  frames : ∀ {i : ScopeId}, i.index < s.scopes.size →
    (after.scope? i).map Scope.frame = (s.scope? i).map Scope.frame
  outputs : after.SameOutputs s

/-- The scopes of the first store that a program holds. -/
def World.Holds (w : World) (i : ScopeId) : Prop := ∃ j, w.held i j

theorem World.Grows.refl (w : World) (s : Store) : w.Grows s w where
  toWithin := .refl w
  origin := rfl
  known_new := .inl
  held_new := .inl

theorem Store.Keeps.refl (owned : ScopeId → Prop) (s : Store) : s.Keeps owned s :=
  ⟨Nat.le_refl _, Nat.le_refl _, fun _ _ => rfl, fun _ => rfl, fun _ => rfl⟩

theorem World.Grows.trans {w later last : World} {s after : Store} {owned : ScopeId → Prop}
    (first : w.Grows s later) (kept : s.Keeps owned after) (second : later.Grows after last) :
    w.Grows s last where
  toWithin := first.toWithin.trans second.toWithin
  origin := second.origin.trans first.origin
  known_new known := by
    rcases second.known_new known with earlier | fresh
    · exact first.known_new earlier
    · exact .inr (Nat.le_trans kept.size fresh)
  held_new held := by
    rcases second.held_new held with earlier | fresh
    · exact first.held_new earlier
    · exact .inr (Nat.le_trans kept.size fresh)

/-- What the first step keeps and the second step keeps, both keep: the scopes the second one holds
besides are new. -/
theorem Store.Keeps.trans {w later : World} {s after last : Store} (grows : w.Grows s later)
    (first : s.Keeps w.Holds after) (second : after.Keeps later.Holds last) :
    s.Keeps w.Holds last where
  size := Nat.le_trans first.size second.size
  routines := Nat.le_trans first.routines second.routines
  scopes := by
    intro i old free
    rw [second.scopes (Nat.lt_of_lt_of_le old first.size), first.scopes old free]
    rintro ⟨j, held⟩
    rcases grows.held_new held with earlier | fresh
    · exact free ⟨j, earlier⟩
    · omega
  frames old := (second.frames (Nat.lt_of_lt_of_le old first.size)).trans (first.frames old)
  outputs output := (second.outputs output).trans (first.outputs output)

/-! ## Lockstep -/

/-- Two steps that do the same on stores that are related in the world `w`. -/
def Lockstep {α β : Type} (w : World) (R : World → α → β → Prop) (a : Action α) (b : Action β) :
    Prop :=
  ∀ s t, s.Related w t → ∃ later, w.Grows s later ∧ s.Keeps w.Holds (a s).2 ∧
    (a s).2.Related later (b t).2 ∧ Alike (R later) (a s).1 (b t).1

namespace Lockstep

variable {α β γ δ : Type} {w : World} {R : World → α → β → Prop} {a : Action α} {b : Action β}

/-- Steps that only read the store. -/
theorem ask {f : Store → Except Fault α} {g : Store → Except Fault β}
    (alike : ∀ s t, s.Related w t → Alike (R w) (f s) (g t)) :
    Lockstep w R (.ask f) (.ask g) := by
  intro s t related
  exact ⟨w, .refl w s, .refl _ s, related, alike s t related⟩

theorem ofExcept {x : Except Fault α} {y : Except Fault β}
    (alike : ∀ s t, Store.Related w s t → Alike (R w) x y) :
    Lockstep w R (.ofExcept x) (.ofExcept y) :=
  ask alike

theorem pure {x : α} {y : β} (same : R w x y) :
    Lockstep w R (Pure.pure x : Action α) (Pure.pure y : Action β) :=
  ask fun _ _ _ => .ok same

theorem fail (fault : Fault) : Lockstep w R (.fail fault : Action α) (.fail fault : Action β) :=
  ask fun _ _ _ => .error fault

/-- A result in lockstep is a result of the first step. -/
theorem produced (steps : Lockstep w R a b) :
    Lockstep w (fun later x y => R later x y ∧ ∃ s after, a s = (.ok x, after)) a b := by
  intro s t related
  obtain ⟨later, grows, keeps, after, alike⟩ := steps s t related
  refine ⟨later, grows, keeps, after, ?_⟩
  cases first : a s with
  | mk result last =>
    rw [first] at alike
    generalize (b t).1 = other at alike ⊢
    cases alike with
    | ok same => exact .ok ⟨same, s, last, first⟩
    | error fault => exact .error fault

/-- One step after the other. -/
theorem bind {Q : World → γ → δ → Prop} {f : α → Action γ} {g : β → Action δ}
    (steps : Lockstep w R a b)
    (next : ∀ later x y, w.Within later → R later x y → Lockstep later Q (f x) (g y)) :
    Lockstep w Q (a >>= f) (b >>= g) := by
  intro s t related
  obtain ⟨later, grows, keeps, after, alike⟩ := steps s t related
  cases first : a s with
  | mk result middle =>
    cases second : b t with
    | mk result' middle' =>
      rw [first] at keeps
      rw [first, second] at after alike
      cases alike with
      | error fault =>
        rw [Action.bind_of_error first, Action.bind_of_error second]
        exact ⟨later, grows, keeps, after, .error fault⟩
      | ok same =>
        rw [Action.bind_of_ok first, Action.bind_of_ok second]
        obtain ⟨last, grows', keeps', after', alike'⟩ :=
          next later _ _ grows.toWithin same middle middle' after
        exact ⟨last, grows.trans keeps grows', keeps.trans grows keeps', after', alike'⟩

end Lockstep

/-! ## Writing names -/

namespace Store

theorem scope?_setBindings (s : Store) (i k : ScopeId) (bindings : Bindings) :
    (s.setBindings i bindings).scope? k =
      if i = k then (s.scope? k).map fun scope => { scope with bindings } else s.scope? k := by
  obtain ⟨i⟩ := i
  obtain ⟨k⟩ := k
  simp only [scope?, setBindings, Array.getElem?_modify, ScopeId.mk.injEq]

theorem Related.setBindings {w : World} {s t : Store} (related : s.Related w t) {i j : ScopeId}
    (known : w.known i j) {x y : Bindings} (same : EntriesRelated w x.entries y.entries) :
    (s.setBindings i x).Related w (t.setBindings j y) where
  printed := related.printed
  scopes := by
    intro k l these
    obtain ⟨a, b, ha, hb, scopes⟩ := related.scopes these
    have both : i = k ↔ j = l := related.known_unique known these
    rw [scope?_setBindings, scope?_setBindings, ha, hb]
    by_cases here : i = k
    · rw [if_pos here, if_pos (both.mp here)]
      exact ⟨_, _, rfl, rfl, ⟨scopes.label, scopes.fixed, same, scopes.parent⟩⟩
    · rw [if_neg here, if_neg fun other => here (both.mpr other)]
      exact ⟨a, b, rfl, rfl, scopes⟩
  known_of_held := related.known_of_held
  known_unique := related.known_unique
  routines_unique := related.routines_unique
  routines_lt := related.routines_lt

theorem keeps_setBindings (s : Store) {owned : ScopeId → Prop} {i : ScopeId} (mine : owned i)
    (bindings : Bindings) : s.Keeps owned (s.setBindings i bindings) where
  size := by simp [setBindings]
  routines := Nat.le_refl _
  scopes := by
    intro k _ free
    rw [scope?_setBindings, if_neg]
    rintro rfl
    exact free mine
  frames := by
    intro k _
    rw [scope?_setBindings]
    split
    · rw [Option.map_map]
      rfl
    · rfl
  outputs := fun _ => rfl

end Store

/-- A name is bound in scopes that stand for one another. -/
theorem Lockstep.declare {w : World} {i j : ScopeId} (held : w.held i j) (name : String)
    {v v' : Value} (same : Value.Related w v v') :
    Lockstep w (fun _ _ _ => True) (declare i name v) (declare j name v') := by
  intro s t related
  have known := related.known_of_held held
  obtain ⟨a, b, ha, hb, scopes⟩ := related.scopes known
  have contains : a.bindings.contains name = b.bindings.contains name :=
    scopes.entries.contains_eq name
  simp only [Scriptlet.declare, ha, hb]
  rw [← scopes.fixed, ← contains]
  by_cases refused : (a.fixed && !a.bindings.contains name) = true
  · rw [if_pos refused, if_pos refused]
    exact ⟨w, .refl w s, .refl _ s, related, .error _⟩
  · rw [if_neg refused, if_neg refused]
    refine ⟨w, .refl w s, s.keeps_setBindings ⟨j, held⟩ _, ?_, .ok trivial⟩
    exact related.setBindings known (scopes.entries.insertEntry name same)

/-! ## Operators on values -/

theorem Store.Related.apply {w : World} {s t : Store} (related : s.Related w t) (op : Operator)
    {a a' b b' : Value} (left : Value.Related w a a') (right : Value.Related w b b') :
    Alike (Value.Related w) (op.apply a b) (op.apply a' b') := by
  have number (f : Float → Float → Float) :
      Alike (Value.Related w) (arithmetic f a b) (arithmetic f a' b') := by
    rw [arithmetic, arithmetic, left.asNumber_eq, right.asNumber_eq]
    cases a'.asNumber with
    | error fault => exact .error fault
    | ok x =>
      cases b'.asNumber with
      | error fault => exact .error fault
      | ok y => exact .ok (.number _)
  have equal : (a == b) = (a' == b') := related.equals_eq left right
  cases op with
  | equal =>
    rw [Operator.apply, Operator.apply, equal]
    exact .ok (.bool _)
  | unequal =>
    rw [Operator.apply, Operator.apply, bne, bne, equal]
    exact .ok (.bool _)
  | add => exact number _
  | sub => exact number _
  | mul => exact number _
  | div => exact number _
  | rem => exact number _
  | pow => exact number _
  | separator => exact .error _
  | declare => exact .error _
  | addTo => exact .error _
  | subTo => exact .error _
  | mulTo => exact .error _
  | divTo => exact .error _

theorem Lockstep.changeBy {w : World} {i j : ScopeId} (held : w.held i j) (name : String)
    {v v' : Value} (same : Value.Related w v v') (op : Operator) :
    Lockstep w Value.Related (changeBy i name v op) (changeBy j name v' op) := by
  refine .bind (R := Value.Related) (.ask fun s t related => ?_) ?_
  · have found := related.lookup name (related.known_of_held held)
    generalize s.lookup i name = x at found ⊢
    generalize t.lookup j name = y at found ⊢
    cases found with
    | none => exact .error _
    | some values => exact .ok values
  intro later present present' within found
  refine .bind (R := Value.Related) (.ofExcept fun s t related => ?_) ?_
  · exact related.apply op found (same.mono within)
  intro last next next' within' result
  refine .bind (.declare (within'.held (within.held held)) name result) ?_
  intro final _ _ more _
  exact .pure (result.mono more)

/-! ## Making scopes and routines -/

namespace World

/-- The world with two more scopes that stand for one another, which the program may hold. -/
def withScope (w : World) (i j : ScopeId) (hold : Prop) : World where
  known k l := w.known k l ∨ (k = i ∧ l = j)
  held k l := w.held k l ∨ (hold ∧ k = i ∧ l = j)
  routines := w.routines
  origin := w.origin

/-- The world with `count` more routines, which stand for one another in turn. -/
def withRoutines (w : World) (r q count : Nat) : World where
  known := w.known
  held := w.held
  routines a b := w.routines a b ∨ ∃ k, k < count ∧ a = r + k ∧ b = q + k
  origin := w.origin

theorem grows_withScope (w : World) (s : Store) (j : ScopeId) (hold : Prop) :
    w.Grows s (w.withScope ⟨s.scopes.size⟩ j hold) where
  known := .inl
  held := .inl
  routines := id
  origin := rfl
  known_new := by
    rintro i k (earlier | ⟨rfl, _⟩)
    · exact .inl earlier
    · exact .inr (Nat.le_refl _)
  held_new := by
    rintro i k (earlier | ⟨_, rfl, _⟩)
    · exact .inl earlier
    · exact .inr (Nat.le_refl _)

theorem grows_withRoutines (w : World) (s : Store) (r q count : Nat) :
    w.Grows s (w.withRoutines r q count) where
  known := id
  held := id
  routines := .inl
  origin := rfl
  known_new := .inl
  held_new := .inl

end World

namespace Store

theorem scope?_addScope_old {s : Store} {k : ScopeId} (old : k.index < s.scopes.size)
    {scope : Scope} (below : scope.ParentBelow s.scopes.size) :
    (s.addScope scope below).2.scope? k = s.scope? k := by
  simp only [scope?, addScope, Array.getElem?_push]
  rw [if_neg (by omega)]

theorem scope?_addScope_new (s : Store) {scope : Scope}
    (below : scope.ParentBelow s.scopes.size) :
    (s.addScope scope below).2.scope? (s.addScope scope below).1 = some scope := by
  simp [scope?, addScope]

theorem lt_size_of_scope? {s : Store} {k : ScopeId} {scope : Scope}
    (found : s.scope? k = some scope) : k.index < s.scopes.size := by
  obtain ⟨bound, _⟩ := Array.getElem?_eq_some_iff.mp found
  exact bound

theorem keeps_addScope (s : Store) (owned : ScopeId → Prop) {scope : Scope}
    (below : scope.ParentBelow s.scopes.size) : s.Keeps owned (s.addScope scope below).2 where
  size := by simp [addScope]
  routines := Nat.le_refl _
  scopes old _ := scope?_addScope_old old below
  frames old := by rw [scope?_addScope_old old below]
  outputs := fun _ => rfl

theorem Related.addScope {w : World} {s t : Store} (related : s.Related w t) {a b : Scope}
    (same : Scope.Related w a b) (below : a.ParentBelow s.scopes.size)
    (under : b.ParentBelow t.scopes.size) (hold : Prop) :
    (s.addScope a below).2.Related (w.withScope ⟨s.scopes.size⟩ ⟨t.scopes.size⟩ hold)
      (t.addScope b under).2 := by
  have within := (w.grows_withScope s ⟨t.scopes.size⟩ hold).toWithin
  have old {k l : ScopeId} (known : w.known k l) :
      k.index < s.scopes.size ∧ l.index < t.scopes.size := by
    obtain ⟨c, d, hc, hd, _⟩ := related.scopes known
    exact ⟨lt_size_of_scope? hc, lt_size_of_scope? hd⟩
  refine ⟨related.printed, ?_, ?_, ?_, related.routines_unique, related.routines_lt⟩
  · rintro k l (known | ⟨rfl, rfl⟩)
    · obtain ⟨c, d, hc, hd, scopes⟩ := related.scopes known
      obtain ⟨left, right⟩ := old known
      rw [scope?_addScope_old left, scope?_addScope_old right]
      exact ⟨c, d, hc, hd, scopes.mono within⟩
    · exact ⟨a, b, scope?_addScope_new s below, scope?_addScope_new t under, same.mono within⟩
  · rintro k l (held | ⟨_, new⟩)
    · exact .inl (related.known_of_held held)
    · exact .inr new
  · rintro k l k' l' (known | ⟨rfl, rfl⟩) (known' | ⟨rfl, rfl⟩)
    · exact related.known_unique known known'
    · obtain ⟨left, right⟩ := old known
      constructor
      · rintro rfl
        exact absurd left (Nat.lt_irrefl _)
      · rintro rfl
        exact absurd right (Nat.lt_irrefl _)
    · obtain ⟨left, right⟩ := old known'
      constructor
      · rintro rfl
        exact absurd left (Nat.lt_irrefl _)
      · rintro rfl
        exact absurd right (Nat.lt_irrefl _)
    · exact ⟨fun _ => rfl, fun _ => rfl⟩

/-- The store in which more routines have been made. -/
def withRoutines (s : Store) (count : Nat) : Store := { s with routines := s.routines + count }

theorem keeps_withRoutines (s : Store) (owned : ScopeId → Prop) (count : Nat) :
    s.Keeps owned (s.withRoutines count) where
  size := Nat.le_refl _
  routines := Nat.le_add_right _ _
  scopes _ _ := rfl
  frames _ := rfl
  outputs := fun _ => rfl

theorem Related.withRoutines {w : World} {s t : Store} (related : s.Related w t) (count : Nat) :
    (s.withRoutines count).Related (w.withRoutines s.routines t.routines count)
      (t.withRoutines count) := by
  have within := (w.grows_withRoutines s s.routines t.routines count).toWithin
  refine ⟨related.printed, ?_, related.known_of_held, related.known_unique, ?_, ?_⟩
  · intro i j known
    obtain ⟨a, b, ha, hb, scopes⟩ := related.scopes known
    exact ⟨a, b, ha, hb, scopes.mono within⟩
  · rintro r q r' q' (known | ⟨k, _, rfl, rfl⟩) (known' | ⟨k', _, rfl, rfl⟩)
    · exact related.routines_unique known known'
    · have := related.routines_lt known
      omega
    · have := related.routines_lt known'
      omega
    · omega
  · rintro r q (known | ⟨k, below, rfl, rfl⟩)
    · have := related.routines_lt known
      simp only [Store.withRoutines]
      omega
    · simp only [Store.withRoutines]
      omega

end Store

end Scriptlet
