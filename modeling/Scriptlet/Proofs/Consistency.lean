import Scriptlet.Proofs.Outcomes
set_option autoImplicit false

/-!
# Statements whose operators disagree

A statement can be put together from a list of operators and a row of tokens that have nothing to do
with each other.  Evaluation takes the order of its work from the list and looks for each operator in
the row.  It still accepts no disagreement: every application takes one occurrence of a listed
operator out of the row and leaves all others, and at the end only separators may be left.
-/

namespace Scriptlet

/-! ## What is applied -/

theorem count_operator? (op : Operator) (tokens : List Token) :
    (tokens.filterMap Token.operator?).count op = tokens.countP (Token.isThe op) := by
  rw [List.count, List.countP_filterMap]
  exact congrArg (List.countP · tokens) (funext fun token => by cases token <;> rfl)

/-- The applications take their operators out of the row, each once, and leave the others. -/
theorem perm_of_applyAll {order : List Operator} {tokens reduced : List Token}
    {store after : Store} (done : applyAll order tokens store = (.ok reduced, after)) :
    (tokens.filterMap Token.operator?).Perm (order ++ reduced.filterMap Token.operator?) := by
  induction order generalizing tokens store with
  | nil =>
    cases done
    exact .refl _
  | cons op rest ih =>
    obtain ⟨next, between, first, later⟩ := Action.bind_ok done
    exact (perm_of_applyFirst first).trans ((ih later).cons op)

theorem applyFirst_ne_nil {op : Operator} {tokens reduced : List Token} {store after : Store}
    (done : applyFirst op tokens store = (.ok reduced, after)) : tokens ≠ [] ∧ reduced ≠ [] := by
  obtain ⟨front, right, result, rest, _, _, rfl, rfl | ⟨left, _, rfl⟩⟩ := applyFirst_ok done <;> simp

/-- No application makes tokens of nothing, and none uses up the last one. -/
theorem applyAll_eq_nil_iff {order : List Operator} {tokens reduced : List Token}
    {store after : Store} (done : applyAll order tokens store = (.ok reduced, after)) :
    reduced = [] ↔ tokens = [] := by
  induction order generalizing tokens store with
  | nil =>
    cases done
    exact .rfl
  | cons op rest ih =>
    obtain ⟨next, between, first, later⟩ := Action.bind_ok done
    obtain ⟨some, left⟩ := applyFirst_ne_nil first
    exact (ih later).trans (iff_of_false left some)

/-! ## What is left -/

/-- A row that has been read consists of values and separators in turn, from a value on or from a
separator on. -/
theorem counts_of_collectValues {whole : List Token} {store : Store} (tokens : List Token) :
    (∀ values, collectValues whole store tokens = .ok values →
      (∀ op ∈ tokens.filterMap Token.operator?, op = .separator) ∧
        values.length = (tokens.length + 1) / 2 ∧
        tokens.countP Token.isSeparator = tokens.length / 2) ∧
    (∀ values, collectSeparator whole store tokens = .ok values →
      (∀ op ∈ tokens.filterMap Token.operator?, op = .separator) ∧
        values.length = tokens.length / 2 ∧
        tokens.countP Token.isSeparator = (tokens.length + 1) / 2) := by
  induction tokens with
  | nil =>
    have none : ∀ op ∈ ([] : List Token).filterMap Token.operator?, op = .separator :=
      List.forall_mem_nil _
    exact ⟨by rintro values ⟨⟩; exact ⟨none, rfl, rfl⟩, by rintro values ⟨⟩; exact ⟨none, rfl, rfl⟩⟩
  | cons token rest ih =>
    rw [Token.filterMap_operator?_cons, List.countP_cons, List.length_cons]
    constructor
    · intro values read
      cases kind : token.isOperator with
      | true =>
        cases token with
        | operator op => cases read
        | value v => cases kind
        | label l => cases kind
      | false =>
        rw [collectValues_cons _ _ kind] at read
        obtain ⟨v, _, read⟩ := except_bind_ok read
        obtain ⟨others, later, read⟩ := except_bind_ok read
        cases read
        obtain ⟨separators, length, count⟩ := ih.2 others later
        have plain : token.isSeparator = false := by
          cases token with
          | operator op => cases kind
          | value v => rfl
          | label l => rfl
        rw [Token.operator?_of_isOperator kind, plain, List.length_cons, length, count]
        exact ⟨separators, by omega, by simp⟩
    · intro values read
      rw [collectSeparator] at read
      split at read
      · rename_i here
        obtain ⟨separators, length, count⟩ := ih.1 values read
        rw [length, count, if_pos here]
        refine ⟨?_, rfl, by omega⟩
        cases token with
        | operator op =>
          have same : op = .separator := eq_of_beq here
          exact List.forall_mem_cons.mpr ⟨same, separators⟩
        | value v => cases here
        | label l => cases here
      · cases read

/-- A row that comes to values has separators only, one fewer than values. -/
theorem counts_of_collect {tokens : List Token} {store : Store} {values : List Value}
    (read : collect tokens store = .ok values) :
    (∀ op ∈ tokens.filterMap Token.operator?, op = .separator) ∧
      values.length = if tokens = [] then 0 else tokens.countP Token.isSeparator + 1 := by
  rw [collect] at read
  split at read
  · cases read
  · rename_i odd
    obtain ⟨separators, length, count⟩ := (counts_of_collectValues tokens).1 values read
    refine ⟨separators, ?_⟩
    split
    · rename_i empty
      rw [length, empty]
      rfl
    · rename_i some
      have rest : tokens.length % 2 ≠ 0 := fun even => odd ⟨even, some⟩
      omega

/-! ## Agreement -/

theorem countP_of_applyAll {operators : List Operator} {tokens reduced : List Token}
    {store after : Store}
    (done : applyAll (reductionOrder operators) tokens store = (.ok reduced, after))
    (op : Operator) :
    tokens.countP (Token.isThe op) =
      (if op = .separator then 0 else operators.count op) + reduced.countP (Token.isThe op) := by
  rw [← count_operator?, ← count_operator?, (perm_of_applyAll done).count_eq op,
    List.count_append, count_reductionOrder]

theorem Statement.counts_of_evaluate {st : Statement} {values : List Value} {store after : Store}
    (done : st.evaluate store = (.ok values, after)) :
    (∀ op, op ≠ .separator → st.operators.count op = st.tokens.countP (Token.isThe op)) ∧
      values.length = if st.tokens = [] then 0 else st.tokens.countP Token.isSeparator + 1 := by
  obtain ⟨reduced, between, applied, collected⟩ := Action.bind_ok done
  injection collected with read _
  obtain ⟨separators, length⟩ := counts_of_collect read
  refine ⟨fun op other => ?_, ?_⟩
  · have gone : reduced.countP (Token.isThe op) = 0 := by
      rw [← count_operator?]
      exact List.count_eq_zero.mpr fun left => other (separators op left)
    rw [countP_of_applyAll applied, if_neg other, gone, Nat.add_zero]
  · have kept : st.tokens.countP Token.isSeparator = reduced.countP Token.isSeparator :=
      (countP_of_applyAll applied .separator).trans (Nat.zero_add _)
    simp only [length, applyAll_eq_nil_iff applied, kept]

/-- Inconsistent statements are never silently accepted.  If a statement has values, each operator but
the separator is listed exactly as often as it stands in the row, and there is no value for an empty
row and one more than separators for any other.  So an operator that is missing from the list, or
listed too often or in place of another, always ends in a fault. -/
theorem inconsistent_statements_fail (st : Statement) (store : Store) :
    (∀ values after, st.evaluate store = (.ok values, after) →
      (∀ op, op ≠ .separator → st.operators.count op = st.tokens.countP (Token.isThe op)) ∧
      values.length = if st.tokens = [] then 0 else st.tokens.countP Token.isSeparator + 1) ∧
    ((∃ op, op ≠ .separator ∧ st.operators.count op ≠ st.tokens.countP (Token.isThe op)) →
      ∃ fault, (st.evaluate store).1 = .error fault) := by
  refine ⟨fun values after => Statement.counts_of_evaluate, fun ⟨op, other, differs⟩ => ?_⟩
  cases outcome : st.evaluate store with
  | mk result after =>
    cases result with
    | error fault => exact ⟨fault, rfl⟩
    | ok values => exact absurd ((Statement.counts_of_evaluate outcome).1 op other) differs

-- The list may have its operators in another order than the row, and its separators are not looked
-- at; a difference in number is found whichever side has more.
example :
    let row : List Token := [.value (.bool true), .operator .equal, .value (.bool true),
      .operator .unequal, .value (.bool false)]
    (Statement.evaluate ⟨row, [.separator, .unequal, .equal]⟩ .empty).1 = .ok [.bool true] ∧
    (Statement.evaluate ⟨row, [.equal]⟩ .empty).1 = .error (.irreducible "true != false") ∧
    (Statement.evaluate ⟨row, [.equal, .unequal, .equal]⟩ .empty).1 =
      .error (.operatorMissing .equal) := by
  refine ⟨rfl, rfl, rfl⟩

end Scriptlet
