import Scriptlet.Reduction
import Scriptlet.Proofs.Lockstep
set_option autoImplicit false

/-!
# Reduction in lockstep

Statements whose tokens differ in identities only are reduced in lockstep: the same operators are
applied in the same order, and every declaration writes to scopes that stand for one another.
-/

namespace Scriptlet

/-! ## Tokens -/

/-- Labels of one name in scopes that stand for one another. -/
structure Label.Related (w : World) (a b : Label) : Prop where
  scope : w.held a.scope b.scope
  name : a.name = b.name

/-- Tokens that differ in identities only. -/
inductive Token.Related (w : World) : Token → Token → Prop where
  | value {a b : Value} (same : Value.Related w a b) : Related w (.value a) (.value b)
  | label {a b : Label} (same : a.Related w b) : Related w (.label a) (.label b)
  | operator (op : Operator) : Related w (.operator op) (.operator op)

/-- Rows that differ in identities only. -/
abbrev Token.AllRelated (w : World) : List Token → List Token → Prop :=
  List.Forall₂ (Token.Related w)

namespace Token

theorem Related.mono {w later : World} (within : w.Within later) {a b : Token}
    (related : Related w a b) : Related later a b := by
  cases related with
  | value same => exact .value (same.mono within)
  | label same => exact .label ⟨within.held same.scope, same.name⟩
  | operator op => exact .operator op

theorem AllRelated.mono {w later : World} (within : w.Within later) {xs ys : List Token}
    (related : AllRelated w xs ys) : AllRelated later xs ys :=
  related.imp fun _ _ h => h.mono within

namespace Related

variable {w : World} {a b : Token}

theorem operator?_eq (related : Related w a b) : a.operator? = b.operator? := by
  cases related <;> rfl

theorem isOperator_eq (related : Related w a b) : a.isOperator = b.isOperator := by
  cases related <;> rfl

theorem isThe_eq (related : Related w a b) (op : Operator) : a.isThe op = b.isThe op := by
  cases related <;> rfl

end Related

end Token

namespace Store.Related

variable {w : World} {s t : Store}

theorem resolve (related : s.Related w t) {i j : ScopeId} (held : w.held i j) (name : String) :
    Alike (Value.Related w) (s.resolve i name) (t.resolve j name) := by
  have found := related.lookup name (related.known_of_held held)
  rw [Store.resolve, Store.resolve]
  generalize s.lookup i name = x at found ⊢
  generalize t.lookup j name = y at found ⊢
  cases found with
  | none => exact .error _
  | some same => exact .ok same

theorem resolveLabel (related : s.Related w t) {a b : Label} (same : a.Related w b) :
    Alike (Value.Related w) (a.resolve s) (b.resolve t) := by
  rw [Label.resolve, Label.resolve, same.name]
  exact related.resolve same.scope b.name

/-- Related tokens stand for related values. -/
theorem resolved (related : s.Related w t) {a b : Token} (same : Token.Related w a b) :
    Alike (Value.Related w) (a.resolved s) (b.resolved t) := by
  cases same with
  | value values => exact .ok values
  | label labels => exact related.resolveLabel labels
  | operator op => exact .error _

theorem tokenText_eq (related : s.Related w t) {a b : Token} (same : Token.Related w a b) :
    a.text s = b.text t := by
  cases same with
  | value values =>
    have texts := related.valueText_eq values
    cases values with
    | string text => rfl
    | _ => exact texts
  | label labels => exact labels.name
  | operator op => rfl

end Store.Related

/-! ## One operator -/

/-- Writes that differ in identities only. -/
structure Mutation.Related (w : World) (m n : Mutation) : Prop where
  target : m.target.Related w n.target
  operator : m.operator = n.operator
  value : Value.Related w m.value n.value

/-- Outcomes that differ in identities only. -/
inductive Outcome.Related (w : World) : Outcome → Outcome → Prop where
  | value {a b : Value} (same : Value.Related w a b) : Related w (.value a) (.value b)
  | mutation {m n : Mutation} (same : m.Related w n) : Related w (.mutation m) (.mutation n)

theorem Lockstep.commit {w : World} {m n : Mutation} (same : m.Related w n) :
    Lockstep w Value.Related m.commit n.commit := by
  obtain ⟨⟨i, name⟩, op, v⟩ := m
  obtain ⟨⟨j, name'⟩, op', v'⟩ := n
  obtain ⟨⟨held, names⟩, operators, values⟩ := same
  simp only at held names operators values
  subst names
  subst operators
  rw [Mutation.commit, Mutation.commit]
  cases op.base? with
  | some base => exact .changeBy held name values base
  | none =>
    refine .bind (.declare held name values) fun later _ _ within _ => ?_
    exact .pure (values.mono within)

theorem Store.Related.evaluate {w : World} {s t : Store} (related : s.Related w t)
    (op : Operator) {a a' b b' : Token} (left : Token.Related w a a')
    (right : Token.Related w b b') :
    Alike (Outcome.Related w) (op.evaluate a b s) (op.evaluate a' b' t) := by
  have values : Alike (Outcome.Related w)
      (do let x ← a.resolved s
          let y ← b.resolved s
          return .value (← op.apply x y))
      (do let x ← a'.resolved t
          let y ← b'.resolved t
          return .value (← op.apply x y)) := by
    refine (related.resolved left).bind fun x x' first => ?_
    refine (related.resolved right).bind fun y y' second => ?_
    exact (related.apply op first second).bind fun _ _ result => .ok (.value result)
  unfold Operator.evaluate
  rw [left.operator?_eq, right.operator?_eq]
  split
  · exact .error _
  · exact .error _
  · split
    · cases left with
      | value _ => exact .error _
      | operator _ => exact .error _
      | label labels =>
        refine (related.resolved right).bind fun y y' value => ?_
        exact .ok (.mutation ⟨labels, rfl, value⟩)
    · exact values

theorem Lockstep.settle {w : World} {x y : Outcome} (same : Outcome.Related w x y) :
    Lockstep w Token.Related x.settle y.settle := by
  cases same with
  | value values => exact .pure (.value values)
  | mutation mutations =>
    refine .bind (.commit mutations) fun later _ _ within _ => ?_
    have target := mutations.target
    exact .pure (.label ⟨within.held target.scope, target.name⟩)

/-! ## One step -/

/-- Pairs of rows that differ in identities only. -/
def RowsRelated (w : World) (p q : List Token × List Token) : Prop :=
  Token.AllRelated w p.1 q.1 ∧ Token.AllRelated w p.2 q.2

theorem splitAtOperator_related {w : World} (op : Operator) {xs ys : List Token}
    (related : Token.AllRelated w xs ys) :
    ∀ {passed passed' : List Token}, Token.AllRelated w passed passed' →
      Option.Rel (RowsRelated w) (splitAtOperator op passed xs)
        (splitAtOperator op passed' ys) := by
  induction related with
  | nil =>
    intro passed passed' _
    exact .none
  | cons here later ih =>
    intro passed passed' before
    rw [splitAtOperator, splitAtOperator, here.isThe_eq]
    split
    · exact .some ⟨before, later⟩
    · exact ih (.cons here before)

theorem leftOperand?_related {w : World} {xs ys : List Token}
    (related : Token.AllRelated w xs ys) :
    Option.Rel (fun p q => Token.Related w p.1 q.1 ∧ Token.AllRelated w p.2 q.2)
      (leftOperand? xs) (leftOperand? ys) := by
  cases related with
  | nil => exact .none
  | cons here later =>
    rw [leftOperand?, leftOperand?, here.isOperator_eq]
    split
    · exact .none
    · exact .some ⟨here, later⟩

/-- Applying an operator to related operands, in the middle of related rows. -/
theorem Lockstep.operate {w : World} (op : Operator) {a a' b b' : Token}
    (left : Token.Related w a a') (right : Token.Related w b b') {xs xs' ys ys' : List Token}
    (before : Token.AllRelated w xs xs') (after : Token.AllRelated w ys ys') :
    Lockstep w Token.AllRelated
      (do let outcome ← Action.ask (op.evaluate a b)
          let result ← outcome.settle
          return xs.reverseAux (result :: ys))
      (do let outcome ← Action.ask (op.evaluate a' b')
          let result ← outcome.settle
          return xs'.reverseAux (result :: ys')) := by
  refine .bind (R := Outcome.Related) (.ask fun s t related => related.evaluate op left right) ?_
  intro later x y within outcome
  refine .bind (.settle outcome) fun last result result' within' token => ?_
  have more := within.trans within'
  rw [List.reverseAux_eq, List.reverseAux_eq]
  exact .pure (List.rel_append (List.forall₂_reverse_iff.mpr (before.mono more))
    (.cons token (after.mono more)))

theorem Lockstep.applyFirst {w : World} (op : Operator) {xs ys : List Token}
    (related : Token.AllRelated w xs ys) :
    Lockstep w Token.AllRelated (applyFirst op xs) (applyFirst op ys) := by
  have parts := splitAtOperator_related op related .nil
  rw [Scriptlet.applyFirst, Scriptlet.applyFirst]
  generalize splitAtOperator op [] xs = p at parts ⊢
  generalize splitAtOperator op [] ys = q at parts ⊢
  cases parts with
  | none => exact .fail _
  | @some p q rows =>
    obtain ⟨before, ahead⟩ := p
    obtain ⟨before', ahead'⟩ := q
    obtain ⟨front, rest⟩ := rows
    cases rest with
    | nil => exact .fail _
    | cons right rest =>
      have taken := leftOperand?_related front
      simp only
      generalize leftOperand? before = l at taken ⊢
      generalize leftOperand? before' = l' at taken ⊢
      cases taken with
      | some left => exact .operate op left.1 right left.2 rest
      | none =>
        simp only
        by_cases sign : op.isSign = true
        · rw [if_pos sign, if_pos sign]
          exact .operate op (.value (.number _)) right front rest
        · rw [if_neg sign, if_neg sign]
          exact .fail _

/-! ## All operators -/

theorem Lockstep.applyAll {w : World} (operators : List Operator) {xs ys : List Token}
    (related : Token.AllRelated w xs ys) :
    Lockstep w Token.AllRelated (applyAll operators xs) (applyAll operators ys) := by
  induction operators generalizing w xs ys with
  | nil => exact .pure related
  | cons op rest ih =>
    exact .bind (.applyFirst op related) fun later _ _ _ reduced => ih reduced

/-! ## The values -/

theorem Store.Related.irreducible_eq {w : World} {s t : Store} (related : s.Related w t)
    {xs ys : List Token} (same : Token.AllRelated w xs ys) :
    irreducible xs s = irreducible ys t := by
  rw [irreducible, irreducible,
    map_eq_of_forall₂ (same.imp fun _ _ token => related.tokenText_eq token)]

/-- Related rows are read alike, from a value on and from a separator on. -/
theorem Store.Related.collectValues {w : World} {s t : Store} (related : s.Related w t)
    {whole whole' : List Token} (rows : Token.AllRelated w whole whole') {xs ys : List Token}
    (same : Token.AllRelated w xs ys) :
    Alike (Value.AllRelated w) (collectValues whole s xs) (collectValues whole' t ys) ∧
    Alike (Value.AllRelated w) (collectSeparator whole s xs) (collectSeparator whole' t ys) := by
  have fault := related.irreducible_eq rows
  induction same with
  | nil => exact ⟨.ok .nil, .ok .nil⟩
  | @cons a b _ _ here later ih =>
    constructor
    · cases kind : b.isOperator with
      | true =>
        cases here with
        | operator op =>
          rw [Scriptlet.collectValues, Scriptlet.collectValues, fault]
          exact .error _
        | value _ => cases kind
        | label _ => cases kind
      | false =>
        rw [collectValues_cons _ _ kind, collectValues_cons _ _ (here.isOperator_eq.trans kind)]
        refine (related.resolved here).bind fun v v' value => ?_
        exact ih.2.bind fun _ _ values => .ok (.cons value values)
    · rw [collectSeparator, collectSeparator, Token.isSeparator, Token.isSeparator,
        here.isThe_eq, fault]
      split
      · exact ih.1
      · exact .error _

theorem Store.Related.collect {w : World} {s t : Store} (related : s.Related w t)
    {xs ys : List Token} (same : Token.AllRelated w xs ys) :
    Alike (Value.AllRelated w) (collect xs s) (collect ys t) := by
  have empty : xs ≠ [] ↔ ys ≠ [] := by
    rw [ne_eq, ne_eq, ← List.length_eq_zero_iff, ← List.length_eq_zero_iff, same.length_eq]
  rw [Scriptlet.collect, Scriptlet.collect, same.length_eq, related.irreducible_eq same]
  by_cases even : ys.length % 2 = 0 ∧ ys ≠ []
  · rw [if_pos even, if_pos ⟨even.1, empty.mpr even.2⟩]
    exact .error _
  · rw [if_neg even, if_neg fun other => even ⟨other.1, empty.mp other.2⟩]
    exact (related.collectValues same same).1

/-- Statements that differ in identities only. -/
structure Statement.Related (w : World) (a b : Statement) : Prop where
  tokens : Token.AllRelated w a.tokens b.tokens
  operators : a.operators = b.operators

/-- Related statements are evaluated in lockstep. -/
theorem Lockstep.evaluate {w : World} {a b : Statement} (same : a.Related w b) :
    Lockstep w Value.AllRelated a.evaluate b.evaluate := by
  rw [Statement.evaluate, Statement.evaluate, same.operators]
  refine .bind (.applyAll _ same.tokens) fun later xs ys _ rows => ?_
  exact .ask fun s t related => related.collect rows

end Scriptlet
