import Mathlib.Data.List.Basic
import Scriptlet.Proofs.PartialWrites
import Scriptlet.Proofs.Scopes
set_option autoImplicit false

/-!
# What an evaluation may write to

A declaration writes to the label on its left, in a row that the operators before it have rewritten.
Still, the only names that an evaluation ever writes to are those that stand directly in front of a
declaration in the row it started with.  That holds of every statement, whether or not its operators
are those of its tokens: applying an operator puts an operand in the place of operands, so no label
comes to stand in front of a declaration unless it was the target of one already.
-/

namespace Scriptlet

/-! ## Stores that differ in some names -/

/-- The second store is the first one, except perhaps for what the labels in `written` are bound
to. -/
structure Store.ChangedOnly (written : Label → Prop) (s after : Store) : Prop where
  bindings : ∀ l : Label, ¬ written l → after.binding? l.scope l.name = s.binding? l.scope l.name
  frames : ∀ id : ScopeId, (after.scope? id).map Scope.frame = (s.scope? id).map Scope.frame
  rest : { after with scopes := s.scopes, older := s.older } = s

namespace Store.ChangedOnly

variable {written more : Label → Prop} {s between after : Store}

theorem refl (written : Label → Prop) (s : Store) : s.ChangedOnly written s :=
  ⟨fun _ _ => rfl, fun _ => rfl, rfl⟩

theorem trans (first : s.ChangedOnly written between) (second : between.ChangedOnly written after) :
    s.ChangedOnly written after where
  bindings l outside := (second.bindings l outside).trans (first.bindings l outside)
  frames id := (second.frames id).trans (first.frames id)
  rest := by
    have early := first.rest
    rw [← second.rest] at early
    exact early

theorem mono (changed : s.ChangedOnly written after) (within : ∀ l, written l → more l) :
    s.ChangedOnly more after :=
  ⟨fun l outside => changed.bindings l (outside ∘ within l), changed.frames, changed.rest⟩

/-- Binding a name in a scope changes what that name is bound to there. -/
theorem setBindings {id : ScopeId} {scope : Scope} (found : s.scope? id = some scope)
    (name : String) (value : Value) :
    s.ChangedOnly (· = ⟨id, name⟩) (s.setBindings id (scope.bindings.insert name value)) where
  bindings l other := by
    rw [binding?, binding?, scope?_setBindings]
    by_cases here : id = l.scope
    · have elsewhere : l.name ≠ name := by
        rintro rfl
        exact other (by rw [here])
      rw [if_pos here, ← here, found, Option.map_some, Option.bind_some, Option.bind_some,
        Bindings.get?_insert, if_neg elsewhere]
    · rw [if_neg here]
  frames other := by
    rw [scope?_setBindings]
    split
    · rw [Option.map_map]
      rfl
    · rfl
  rest := rfl

end Store.ChangedOnly

theorem changedOnly_declare (id : ScopeId) (name : String) (value : Value) (store : Store) :
    store.ChangedOnly (· = ⟨id, name⟩) (declare id name value store).2 := by
  rw [declare]
  split
  · exact .refl _ store
  · rename_i scope found
    split
    · exact .refl _ store
    · exact .setBindings found name value

/-- Carrying out a mutation changes at most what its target is bound to. -/
theorem Mutation.changedOnly_commit (m : Mutation) (store : Store) :
    store.ChangedOnly (· = m.target) (m.commit store).2 := by
  rcases m.commit_cases store with ⟨fault, refused⟩ | ⟨v, after, declared, done, _⟩
  · rw [refused]
    exact .refl _ store
  · have changed := changedOnly_declare m.target.scope m.target.name v store
    rw [declared] at changed
    rw [done]
    exact changed

/-! ## Targets -/

/-- In the row, a declaration follows the label directly. -/
def IsTarget (tokens : List Token) (l : Label) : Prop :=
  ∃ front op rest, tokens = front ++ .label l :: .operator op :: rest ∧ op.isDeclaration = true

namespace IsTarget

variable {l : Label} {tokens front rest : List Token}

theorem append_left (target : IsTarget tokens l) (front : List Token) :
    IsTarget (front ++ tokens) l := by
  obtain ⟨before, op, behind, rfl, declares⟩ := target
  exact ⟨front ++ before, op, behind, by rw [List.append_assoc], declares⟩

theorem append_right (target : IsTarget tokens l) (rest : List Token) :
    IsTarget (tokens ++ rest) l := by
  obtain ⟨before, op, behind, rfl, declares⟩ := target
  exact ⟨before, op, behind ++ rest, by simp, declares⟩

/-- A target of a row with an operand in it is that operand, or a target of what stands on one side
of it. -/
theorem of_operand {x : Token} (operand : x.isOperator = false)
    (target : IsTarget (front ++ x :: rest) l) :
    x = .label l ∨ IsTarget front l ∨ IsTarget rest l := by
  obtain ⟨before, op, behind, same, declares⟩ := target
  rcases List.append_eq_append_iff.mp same with ⟨between, rfl, tail⟩ | ⟨between, rfl, tail⟩
  · -- The operand is the label, or stands in front of it.
    rcases List.cons_eq_append_iff.mp tail with ⟨_, here⟩ | ⟨later, _, rfl⟩
    · exact .inl (List.cons.inj here).1.symm
    · exact .inr (.inr ⟨later, op, behind, rfl, declares⟩)
  · -- The label stands in front of the operand, and so does the declaration.
    rcases List.cons_eq_append_iff.mp tail with ⟨_, here⟩ | ⟨between, rfl, further⟩
    · exact .inl (List.cons.inj here).1
    rcases List.cons_eq_append_iff.mp further with ⟨_, here⟩ | ⟨later, rfl, _⟩
    · rw [(List.cons.inj here).1] at operand
      cases operand
    · exact .inr (.inl ⟨before, op, later, rfl, declares⟩)

/-- An operand in the place of other tokens makes no target but itself. -/
theorem of_replaced {x : Token} (operand : x.isOperator = false)
    (target : IsTarget (front ++ x :: rest) l) (replaced : List Token) :
    x = .label l ∨ IsTarget (front ++ replaced ++ rest) l := by
  rcases target.of_operand operand with here | before | behind
  · exact .inl here
  · exact .inr ((before.append_right replaced).append_right rest)
  · exact .inr (behind.append_left _)

end IsTarget

/-! ## Reduction -/

/-- What one application of an operator keeps, whether it fails or not: it writes at most to targets
of the row, and the row it leaves has no others. -/
theorem applyFirst_targets (op : Operator) (tokens : List Token) (store : Store) :
    store.ChangedOnly (IsTarget tokens) (applyFirst op tokens store).2 ∧
    ∀ reduced, (applyFirst op tokens store).1 = .ok reduced →
      ∀ l, IsTarget reduced l → IsTarget tokens l := by
  have failing {result : Except Fault (List Token) × Store}
      (failed : ∃ fault, result = (.error fault, store)) :
      store.ChangedOnly (IsTarget tokens) result.2 ∧
        ∀ reduced, result.1 = .ok reduced → ∀ l, IsTarget reduced l → IsTarget tokens l := by
    obtain ⟨fault, rfl⟩ := failed
    exact ⟨.refl _ store, fun _ done => by cases done⟩
  rcases exists_leftmost op tokens with absent | ⟨front, rest, rfl, absent⟩
  · rw [applyFirst, splitAtOperator_absent absent]
    exact failing ⟨_, rfl⟩
  rcases applyFirst_leftmost absent rest store with
    failed | ⟨kept, left, right, later, outcome, rfl, evaluated, operands, settled⟩
  · exact failing failed
  rw [settled]
  cases declares : op.isDeclaration with
  | false =>
    obtain ⟨v, rfl⟩ := evaluate_computing declares evaluated
    refine ⟨.refl _ store, ?_⟩
    rintro _ ⟨⟩ l target
    rcases operands with ⟨rfl, _⟩ | ⟨rfl, _⟩
    · have before :=
        (target.of_replaced rfl [left, .operator op, right]).resolve_left Token.noConfusion
      simpa using before
    · have before := (target.of_replaced rfl [.operator op, right]).resolve_left Token.noConfusion
      simpa using before
  | true =>
    obtain ⟨written, v, rfl, _, rfl⟩ := evaluate_declaring declares evaluated
    have row : front = kept ++ [.label written] := by
      rcases operands with ⟨same, _⟩ | ⟨_, sign⟩
      · exact same
      · rw [op.isDeclaration_iff] at declares
        rw [op.isSign_iff] at sign
        omega
    subst row
    have mine : IsTarget (kept ++ [.label written] ++ .operator op :: right :: later) written :=
      ⟨kept, op, right :: later, by simp, declares⟩
    have changed := (Mutation.changedOnly_commit ⟨written, op, v⟩ store).mono fun l same =>
      (congrArg (IsTarget _) same).mpr mine
    cases committed : Mutation.commit ⟨written, op, v⟩ store with
    | mk result between =>
      rw [committed] at changed
      cases result with
      | error fault =>
        rw [settle_of_error committed]
        exact ⟨changed, fun _ done => by cases done⟩
      | ok value =>
        rw [settle_of_ok committed]
        refine ⟨changed, ?_⟩
        rintro _ ⟨⟩ l target
        rcases target.of_replaced rfl [.label written, .operator op, right] with here | before
        · cases here
          exact mine
        · simpa using before

/-- What all applications keep. -/
theorem applyAll_targets (order : List Operator) {written : Label → Prop} :
    ∀ (tokens : List Token) (store : Store), (∀ l, IsTarget tokens l → written l) →
      store.ChangedOnly written (applyAll order tokens store).2 := by
  induction order with
  | nil =>
    intro tokens store _
    exact .refl _ store
  | cons op order ih =>
    intro tokens store within
    obtain ⟨changed, fewer⟩ := applyFirst_targets op tokens store
    cases applied : applyFirst op tokens store with
    | mk result between =>
      rw [applied] at changed fewer
      cases result with
      | error fault =>
        rw [applyAll, Action.bind_of_error applied]
        exact changed.mono within
      | ok reduced =>
        rw [applyAll, Action.bind_of_ok applied]
        have later := ih reduced between fun l target => within l (fewer reduced rfl l target)
        exact (changed.mono within).trans later

/-! ## Statements -/

/-- Reading the values changes nothing. -/
theorem Statement.evaluate_store (st : Statement) (store : Store) :
    (st.evaluate store).2 = (applyAll (reductionOrder st.operators) st.tokens store).2 := by
  cases applied : applyAll (reductionOrder st.operators) st.tokens store with
  | mk result between =>
    cases result with
    | error fault => rw [Statement.evaluate, Action.bind_of_error applied]
    | ok row => rw [Statement.evaluate, Action.bind_of_ok applied, Action.ask_apply]

/-- A statement that lists no declaration leaves the store alone. -/
theorem Statement.evaluate_of_computing {st : Statement}
    (computing : ∀ op ∈ st.operators, op.isDeclaration = false) (store : Store) :
    (st.evaluate store).2 = store := by
  have order : ∀ op ∈ reductionOrder st.operators, op.isDeclaration = false := by
    have none : st.operators.filter Operator.isDeclaration = [] :=
      List.filter_eq_nil_iff.mpr fun op member => by simp [computing op member]
    rw [reductionOrder_eq, none, List.append_nil]
    exact isDeclaration_computingOrder
  rw [st.evaluate_store]
  rcases applyAll_computing order st.tokens store with ⟨_, failed⟩ | ⟨_, applied, _⟩
  · rw [failed]
  · rw [applied]

/-- Evaluates a statement a number of times, each time in the store that the time before has left,
whatever it ended with. -/
def Statement.evaluateTimes (st : Statement) :
    Nat → Store → List (Except Fault (List Value)) × Store
  | 0, store => ([], store)
  | n + 1, store =>
    let first := st.evaluate store
    let later := st.evaluateTimes n first.2
    (first.1 :: later.1, later.2)

theorem Statement.evaluateTimes_of_unchanged {st : Statement} {store : Store}
    (unchanged : (st.evaluate store).2 = store) (n : Nat) :
    st.evaluateTimes n store = (List.replicate n (st.evaluate store).1, store) := by
  induction n with
  | zero => rfl
  | succ n ih => rw [evaluateTimes, unchanged, ih, List.replicate_succ]

/-- An evaluation writes only to the targets of its declarations.  For every statement, also one
whose operators are not those of its tokens, and whatever the evaluation ends with, the store it
leaves is the store at the start except for what those labels are bound to that a declaration
follows directly in the tokens.  A statement that lists no declaration leaves the store as it is, so
that any number of evaluations have the same result. -/
theorem evaluate_writes_targets (st : Statement) (store : Store) :
    store.ChangedOnly (IsTarget st.tokens) (st.evaluate store).2 ∧
    ((∀ op ∈ st.operators, op.isDeclaration = false) →
      (st.evaluate store).2 = store ∧
      ∀ n, st.evaluateTimes n store = (List.replicate n (st.evaluate store).1, store)) := by
  refine ⟨?_, fun computing => ?_⟩
  · rw [st.evaluate_store]
    exact applyAll_targets _ st.tokens store fun _ => id
  · have unchanged := Statement.evaluate_of_computing computing store
    exact ⟨unchanged, Statement.evaluateTimes_of_unchanged unchanged⟩

/-- The tokens `b + a = true` in a structure with the fields `a` and `b`.  If only the declaration
is listed, it writes to `a`, which is a target, and not to `b`, and then the sum is left over.  If
only the sum is listed, it fails as often as it is evaluated. -/
theorem evaluate_writes_targets_unlisted :
    let start := (Store.empty.newInstance [("a", .bool false), ("b", .bool false)]).2
    let final := (Store.empty.newInstance [("a", .bool true), ("b", .bool false)]).2
    let tokens : List Token := [.label ⟨⟨0⟩, "b"⟩, .operator .add, .label ⟨⟨0⟩, "a"⟩,
      .operator .declare, .value (.bool true)]
    let fault : Fault := .typeMismatch "number" "bool"
    IsTarget tokens ⟨⟨0⟩, "a"⟩ ∧ ¬ IsTarget tokens ⟨⟨0⟩, "b"⟩ ∧
    Statement.evaluate ⟨tokens, [.declare]⟩ start = (.error (.irreducible "b + a"), final) ∧
    start.ChangedOnly (IsTarget tokens) final ∧
    Statement.evaluateTimes ⟨tokens, [.add]⟩ 3 start =
      ([.error fault, .error fault, .error fault], start) := by
  intro start final tokens fault
  have ended : Statement.evaluate ⟨tokens, [.declare]⟩ start =
      (.error (.irreducible "b + a"), final) := by cbv
  have other : ¬ IsTarget tokens ⟨⟨0⟩, "b"⟩ := by
    rintro ⟨front, op, rest, same, declares⟩
    cases front with
    | nil =>
      obtain ⟨here, _⟩ := List.cons.inj (List.cons.inj same).2
      cases here
      cases declares
    | cons first front =>
      -- It is the first of the tokens and none of the others.
      obtain ⟨_, others⟩ := List.cons.inj same
      have member : Token.label ⟨⟨0⟩, "b"⟩ ∈ tokens.tail := by
        rw [show tokens.tail = _ from others]
        exact List.mem_append_right _ List.mem_cons_self
      simp [tokens] at member
  have changed := (evaluate_writes_targets ⟨tokens, [.declare]⟩ start).1
  rw [ended] at changed
  have failed : Statement.evaluate ⟨tokens, [.add]⟩ start = (.error fault, start) := by cbv
  have repeated := ((evaluate_writes_targets ⟨tokens, [.add]⟩ start).2
    (List.forall_mem_singleton.mpr rfl)).2 3
  rw [failed] at repeated
  exact ⟨⟨[_, _], .declare, [_], rfl, rfl⟩, other, ended, changed, repeated⟩

end Scriptlet
