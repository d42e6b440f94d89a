import Scriptlet.Proofs.Chain
set_option autoImplicit false

/-!
# Precedence trees

The meaning of a chain of operands is a tree: an operator of higher priority binds tighter, and of
two with the same priority the left one does.  A pass reads the same values in another order, but it
keeps the value of the tree: it evaluates the subtrees whose operators have its priority and leaves
the rest of the tree in place.  After the passes of all its priorities a chain is therefore the
value of its tree.
-/

namespace Scriptlet

/-- How tightly the operators bind: powers first, then remainders, multiplication with division,
addition with subtraction, and the two comparisons.  Declarations come after all of these, and
separators after them. -/
theorem Operator.priority_order :
    rem.priority < pow.priority ∧
    mul.priority < rem.priority ∧ mul.priority = div.priority ∧
    add.priority < mul.priority ∧ add.priority = sub.priority ∧
    equal.priority < add.priority ∧ equal.priority = unequal.priority ∧
    ∀ op : Operator, op.isDeclaration = true →
      op.priority < equal.priority ∧ separator.priority < op.priority := by
  refine ⟨by decide, by decide, rfl, by decide, rfl, by decide, rfl, fun op declares => ?_⟩
  cases op with
  | declare | addTo | subTo | mulTo | divTo => decide
  | _ => cases declares

/-! ## Trees -/

/-- Operands grouped by operators. -/
inductive Tree where
  | leaf (x : Operand)
  | node (op : Operator) (left right : Tree)

namespace Tree

/-- The value of a tree whose labels are read in one store. -/
def eval (store : Store) : Tree → Except Fault Value
  | leaf x => x.token.resolved store
  | node op left right => do
    let a ← left.eval store
    let b ← right.eval store
    op.apply a b

/-- The operands of a tree in order, with the operators between them. -/
def chain : Tree → Chain Operand
  | leaf x => ⟨x, []⟩
  | node op left right => left.chain.join op right.chain

/-- The tree with another operator and operand behind it.  The operator takes the whole tree for its
left side, or goes down on the right as far as the operators there bind less tightly. -/
def insert (op : Operator) (x : Operand) : Tree → Tree
  | leaf y => node op (leaf y) (leaf x)
  | node above left right =>
    if above.priority < op.priority then node above left (right.insert op x)
    else node op (node above left right) (leaf x)

/-- Every operator binds at most as tightly as those on its left and less tightly than those on its
right. -/
def Ordered : Tree → Prop
  | leaf _ => True
  | node op left right =>
    left.Ordered ∧ right.Ordered ∧
      (∀ other ∈ left.chain.operators, op.priority ≤ other.priority) ∧
      (∀ other ∈ right.chain.operators, op.priority < other.priority)

end Tree

/-- The left-associative precedence tree of a chain. -/
def Chain.tree (c : Chain Operand) : Tree :=
  c.tail.foldl (fun tree link => tree.insert link.1 link.2) (.leaf c.head)

namespace Tree

theorem forall_operators_node {P : Operator → Prop} {op : Operator} {left right : Tree} :
    (∀ other ∈ (node op left right).chain.operators, P other) ↔
      (∀ other ∈ left.chain.operators, P other) ∧ P op ∧
        ∀ other ∈ right.chain.operators, P other := by
  rw [chain, Chain.operators_join, List.forall_mem_append, List.forall_mem_cons]

theorem chain_insert (op : Operator) (x : Operand) (t : Tree) :
    (t.insert op x).chain = t.chain.join op ⟨x, []⟩ := by
  induction t with
  | leaf y => rfl
  | node above left right _ ih =>
    rw [insert]
    split
    · rw [chain, ih, chain]
      simp [Chain.join]
    · rfl

theorem ordered_insert (op : Operator) (x : Operand) {t : Tree} (ordered : t.Ordered) :
    (t.insert op x).Ordered := by
  induction t with
  | leaf y => exact ⟨trivial, trivial, by simp [chain], by simp [chain]⟩
  | node above left right _ ih =>
    obtain ⟨hleft, hright, looser, tighter⟩ := ordered
    rw [insert]
    split
    · rename_i below
      refine ⟨hleft, ih hright, looser, ?_⟩
      intro other member
      rw [chain_insert, Chain.operators_join] at member
      rcases List.mem_append.mp member with inside | new
      · exact tighter other inside
      · rw [show other = op by simpa using new]
        exact below
    · rename_i above_op
      refine ⟨⟨hleft, hright, looser, tighter⟩, trivial, ?_, by simp [chain]⟩
      refine forall_operators_node.mpr ⟨fun other inside => ?_, by omega, fun other inside => ?_⟩
      · have := looser other inside
        omega
      · have := tighter other inside
        omega

theorem foldl_insert (links : List (Operator × Operand)) :
    ∀ {t : Tree}, t.Ordered →
      (links.foldl (fun tree link => tree.insert link.1 link.2) t).Ordered ∧
      (links.foldl (fun tree link => tree.insert link.1 link.2) t).chain =
        ⟨t.chain.head, t.chain.tail ++ links⟩ := by
  induction links with
  | nil =>
    intro t ordered
    exact ⟨ordered, by simp⟩
  | cons link rest ih =>
    intro t ordered
    obtain ⟨kept, grown⟩ := ih (ordered_insert link.1 link.2 ordered)
    refine ⟨kept, ?_⟩
    rw [List.foldl_cons, grown, chain_insert]
    simp [Chain.join]

end Tree

/-- The tree of a chain is ordered. -/
theorem Chain.ordered_tree (c : Chain Operand) : c.tree.Ordered :=
  (Tree.foldl_insert c.tail (t := .leaf c.head) trivial).1

/-- The tree of a chain has the operands and operators of the chain. -/
theorem Chain.chain_tree (c : Chain Operand) : c.tree.chain = c := by
  rw [Chain.tree, (Tree.foldl_insert c.tail (t := .leaf c.head) trivial).2]
  rfl

/-- Operators that bind more tightly than the root go to the right of it. -/
theorem Tree.foldl_insert_node (links : List (Operator × Operand)) {op : Operator} {left : Tree}
    (tighter : ∀ other ∈ links.map Prod.fst, op.priority < other.priority) :
    ∀ right : Tree, links.foldl (fun tree link => tree.insert link.1 link.2) (node op left right) =
      node op left (links.foldl (fun tree link => tree.insert link.1 link.2) right) := by
  induction links with
  | nil =>
    intro right
    rfl
  | cons link rest ih =>
    intro right
    rw [List.foldl_cons, insert, if_pos (tighter link.1 (by simp)), List.foldl_cons]
    exact ih (fun other member => tighter other (by simp_all)) (right.insert link.1 link.2)

/-- No other ordered tree has the same operands and operators: the tree of a chain is its only
left-associative precedence tree. -/
theorem Tree.Ordered.tree_chain {t : Tree} (ordered : t.Ordered) : t.chain.tree = t := by
  induction t with
  | leaf x => rfl
  | node op left right ihl ihr =>
    obtain ⟨hleft, hright, looser, tighter⟩ := ordered
    have start : (left.insert op right.chain.head) = node op left (.leaf right.chain.head) := by
      cases left with
      | leaf y => rfl
      | node above l r =>
        have : op.priority ≤ above.priority := looser above (by simp [chain])
        rw [insert, if_neg (by omega)]
    have before : left.chain.tail.foldl (fun tree link => tree.insert link.1 link.2)
        (.leaf left.chain.head) = left := ihl hleft
    rw [chain, Chain.tree, Chain.join, List.foldl_append, before, List.foldl_cons, start,
      foldl_insert_node right.chain.tail tighter]
    exact congrArg _ (ihr hright)

/-! ## Passes over operands -/

/-- The value an operator gives for two operands, if it gives one. -/
def operate (store : Store) (op : Operator) (left right : Operand) : Option Value := do
  let a ← (left.token.resolved store).toOption
  let b ← (right.token.resolved store).toOption
  (op.apply a b).toOption

/-- Replaces the operators of one priority by their values, from left to right. -/
def reduceFrom (store : Store) (level : Int) (x : Operand) :
    List (Operator × Operand) → Option (Chain Operand)
  | [] => some ⟨x, []⟩
  | (op, y) :: rest =>
    if op.priority = level then do
      let v ← operate store op x y
      reduceFrom store level (.value v) rest
    else do
      let c ← reduceFrom store level y rest
      return ⟨x, (op, c.head) :: c.tail⟩

namespace Chain

/-- Replaces the operators of one priority by their values, from left to right. -/
def reduce (store : Store) (level : Int) (c : Chain Operand) : Option (Chain Operand) :=
  reduceFrom store level c.head c.tail

/-- Replaces the operators of several priorities, one priority after the other. -/
def reduces (store : Store) : List Int → Chain Operand → Option (Chain Operand)
  | [], c => some c
  | level :: rest, c => (c.reduce store level).bind (reduces store rest)

end Chain

theorem reduceFrom_of_eq {store : Store} {level : Int} {op : Operator} (mine : op.priority = level)
    (x y : Operand) (rest : List (Operator × Operand)) :
    reduceFrom store level x ((op, y) :: rest) =
      (operate store op x y).bind fun v => reduceFrom store level (.value v) rest := by
  rw [reduceFrom, if_pos mine]
  rfl

theorem reduceFrom_of_ne {store : Store} {level : Int} {op : Operator} (other : op.priority ≠ level)
    (x y : Operand) (rest : List (Operator × Operand)) :
    reduceFrom store level x ((op, y) :: rest) =
      (reduceFrom store level y rest).map fun c => ⟨x, (op, c.head) :: c.tail⟩ := by
  rw [reduceFrom, if_neg other]
  cases reduceFrom store level y rest <;> rfl

theorem reduceFrom_append {store : Store} {level : Int} {op : Operator}
    (other : op.priority ≠ level) (y : Operand) (rest links : List (Operator × Operand)) :
    ∀ x : Operand, reduceFrom store level x (links ++ (op, y) :: rest) =
      (reduceFrom store level x links).bind fun c =>
        (reduceFrom store level y rest).map fun d => c.join op d := by
  induction links with
  | nil =>
    intro x
    exact reduceFrom_of_ne other x y rest
  | cons link links ih =>
    obtain ⟨inner, z⟩ := link
    intro x
    rw [List.cons_append]
    by_cases mine : inner.priority = level
    · rw [reduceFrom_of_eq mine, reduceFrom_of_eq mine]
      cases operate store inner x z with
      | none => rfl
      | some v => exact ih (.value v)
    · rw [reduceFrom_of_ne mine, reduceFrom_of_ne mine, ih z]
      cases reduceFrom store level z links with
      | none => rfl
      | some c => cases reduceFrom store level y rest <;> rfl

/-- Both sides of an operator of another priority are reduced apart. -/
theorem Chain.reduce_join {store : Store} {level : Int} {op : Operator}
    (other : op.priority ≠ level) (c d : Chain Operand) :
    (c.join op d).reduce store level = (c.reduce store level).bind fun c =>
      (d.reduce store level).map fun d => c.join op d :=
  reduceFrom_append other d.head d.tail c.tail c.head

/-- Both sides of an operator that is never applied are reduced apart. -/
theorem Chain.reduces_join {store : Store} {op : Operator} (levels : List Int)
    (other : op.priority ∉ levels) :
    ∀ c d : Chain Operand, (c.join op d).reduces store levels =
      (c.reduces store levels).bind fun c =>
        (d.reduces store levels).map fun d => c.join op d := by
  induction levels with
  | nil =>
    intro c d
    rfl
  | cons level levels ih =>
    intro c d
    have here : op.priority ≠ level := fun same => other (by simp [same])
    have later : op.priority ∉ levels := fun member => other (by simp [member])
    rw [reduces, reduces, reduces, reduce_join here]
    cases c.reduce store level with
    | none => rfl
    | some c' =>
      cases d.reduce store level with
      | none =>
        rw [Option.bind_some, Option.bind_some]
        cases c'.reduces store levels <;> rfl
      | some d' => exact ih later c' d'

/-- A chain all of whose operators are applied ends as one value. -/
theorem reduceFrom_concat (store : Store) {level : Int} {op : Operator}
    (mine : op.priority = level) (y : Operand) {links : List (Operator × Operand)}
    (all : ∀ other ∈ links.map Prod.fst, other.priority = level) :
    ∀ x : Operand, reduceFrom store level x (links ++ [(op, y)]) =
      (reduceFrom store level x links).bind fun c =>
        (operate store op c.head y).map fun v => ⟨.value v, []⟩ := by
  induction links with
  | nil =>
    intro x
    rw [List.nil_append, reduceFrom_of_eq mine]
    simp only [reduceFrom, Option.bind_some]
    cases operate store op x y <;> rfl
  | cons link links ih =>
    obtain ⟨inner, z⟩ := link
    intro x
    have here : inner.priority = level := all inner (by simp)
    rw [List.cons_append, reduceFrom_of_eq here, reduceFrom_of_eq here]
    cases operate store inner x z with
    | none => rfl
    | some v => exact ih (fun other member => all other (by simp_all)) (.value v)

/-! ## A pass keeps the value of the tree -/

namespace Tree

/-- The value of a tree, if it has one. -/
def value? (store : Store) (t : Tree) : Option Value := (t.eval store).toOption

theorem value?_node (store : Store) (op : Operator) (left right : Tree) :
    (node op left right).value? store = (left.value? store).bind fun a =>
      (right.value? store).bind fun b => (op.apply a b).toOption := by
  simp only [value?, eval]
  cases left.eval store with
  | error fault => rfl
  | ok a => cases right.eval store <;> rfl

/-- The operand a tree comes to: itself if it is one, and otherwise its value. -/
def settle? (store : Store) : Tree → Option Operand
  | leaf x => some x
  | node op left right => ((node op left right).value? store).map .value

/-- The tree in which the subtrees with operators of one priority have become their values. -/
def squash (store : Store) (level : Int) : Tree → Option Tree
  | leaf x => some (leaf x)
  | node op left right =>
    if op.priority = level then ((node op left right).settle? store).map leaf
    else (left.squash store level).bind fun l =>
      (right.squash store level).map fun r => node op l r

theorem value?_settle? {store : Store} {t : Tree} :
    ((t.settle? store).bind fun x => (x.token.resolved store).toOption) = t.value? store := by
  cases t with
  | leaf x => rfl
  | node op left right =>
    rw [settle?]
    cases (node op left right).value? store <;> rfl

theorem eq_leaf {t : Tree} (none : t.chain.operators = []) : ∃ x, t = leaf x := by
  cases t with
  | leaf x => exact ⟨x, rfl⟩
  | node op left right => simp [chain] at none

/-- Operators of the present priority only: the tree is applied as a whole. -/
theorem squash_uniform {store : Store} {level : Int} {t : Tree}
    (all : ∀ op ∈ t.chain.operators, op.priority = level) :
    t.squash store level = (t.settle? store).map leaf := by
  cases t with
  | leaf x => rfl
  | node op left right => rw [squash, if_pos (all op (by simp [chain]))]

/-- A pass over the chain of a tree evaluates the subtrees of its priority. -/
theorem reduce_chain {store : Store} {level : Int} {t : Tree} (ordered : t.Ordered)
    (bounded : ∀ op ∈ t.chain.operators, op.priority ≤ level) :
    t.chain.reduce store level = (t.squash store level).map chain := by
  induction t with
  | leaf x => rfl
  | node op left right ihl ihr =>
    obtain ⟨hleft, hright, looser, tighter⟩ := ordered
    obtain ⟨boundedLeft, _, boundedRight⟩ := forall_operators_node.mp bounded
    by_cases mine : op.priority = level
    · -- Nothing can bind more tightly, so the right side is an operand and the left side uniform.
      have single : right.chain.operators = [] := by
        refine List.eq_nil_iff_forall_not_mem.mpr fun other member => ?_
        have := tighter other member
        have := boundedRight other member
        omega
      have all : ∀ other ∈ left.chain.operators, other.priority = level := by
        intro other member
        have := looser other member
        have := boundedLeft other member
        omega
      obtain ⟨y, rfl⟩ := eq_leaf single
      have before : reduceFrom store level left.chain.head left.chain.tail =
          (left.settle? store).map fun x => ⟨x, []⟩ := by
        have := ihl hleft boundedLeft
        rw [squash_uniform all, Option.map_map] at this
        exact this
      rw [squash, if_pos mine, settle?, value?_node, ← value?_settle?]
      have step := reduceFrom_concat store mine y all left.chain.head
      rw [before] at step
      refine step.trans ?_
      cases left.settle? store with
      | none => rfl
      | some x =>
        simp only [Option.map_some, Option.bind_some, operate]
        cases (x.token.resolved store).toOption with
        | none => rfl
        | some a =>
          cases h : (y.token.resolved store).toOption with
          | none => simp [value?, eval, h]
          | some b => simp [value?, eval, h, Function.comp_def, chain]
    · rw [chain, Chain.reduce_join mine, ihl hleft boundedLeft, ihr hright boundedRight, squash,
        if_neg mine]
      cases left.squash store level with
      | none => rfl
      | some l => cases right.squash store level <;> rfl

/-- What is left of the operators after the subtrees of one priority have been evaluated. -/
theorem operators_squash {store : Store} {level : Int} {t u : Tree} (ordered : t.Ordered)
    (bounded : ∀ op ∈ t.chain.operators, op.priority ≤ level)
    (done : t.squash store level = some u) :
    u.chain.operators = t.chain.operators.filter fun op => op.priority != level := by
  induction t generalizing u with
  | leaf x =>
    cases done
    rfl
  | node op left right ihl ihr =>
    obtain ⟨hleft, hright, looser, tighter⟩ := ordered
    obtain ⟨boundedLeft, _, boundedRight⟩ := forall_operators_node.mp bounded
    rw [squash] at done
    by_cases mine : op.priority = level
    · rw [if_pos mine] at done
      obtain ⟨x, _, rfl⟩ := Option.map_eq_some_iff.mp done
      have above : ∀ other ∈ (node op left right).chain.operators, op.priority ≤ other.priority :=
        forall_operators_node.mpr ⟨looser, Int.le_refl _,
          fun other inside => Int.le_of_lt (tighter other inside)⟩
      refine Eq.symm (List.filter_eq_nil_iff.mpr fun other member => ?_)
      have lower := above other member
      have upper := bounded other member
      have : other.priority = level := by omega
      simp [this]
    · rw [if_neg mine] at done
      obtain ⟨l, hl, done⟩ := Option.bind_eq_some_iff.mp done
      obtain ⟨r, hr, rfl⟩ := Option.map_eq_some_iff.mp done
      simp [chain, ihl hleft boundedLeft hl, ihr hright boundedRight hr, mine]

theorem ordered_squash {store : Store} {level : Int} {t u : Tree} (ordered : t.Ordered)
    (bounded : ∀ op ∈ t.chain.operators, op.priority ≤ level)
    (done : t.squash store level = some u) : u.Ordered := by
  induction t generalizing u with
  | leaf x =>
    cases done
    trivial
  | node op left right ihl ihr =>
    obtain ⟨hleft, hright, looser, tighter⟩ := ordered
    obtain ⟨boundedLeft, _, boundedRight⟩ := forall_operators_node.mp bounded
    rw [squash] at done
    by_cases mine : op.priority = level
    · rw [if_pos mine] at done
      obtain ⟨x, _, rfl⟩ := Option.map_eq_some_iff.mp done
      trivial
    · rw [if_neg mine] at done
      obtain ⟨l, hl, done⟩ := Option.bind_eq_some_iff.mp done
      obtain ⟨r, hr, rfl⟩ := Option.map_eq_some_iff.mp done
      refine ⟨ihl hleft boundedLeft hl, ihr hright boundedRight hr, ?_, ?_⟩
      · intro other member
        rw [operators_squash hleft boundedLeft hl] at member
        exact looser other ((List.mem_filter.mp member).1)
      · intro other member
        rw [operators_squash hright boundedRight hr] at member
        exact tighter other ((List.mem_filter.mp member).1)

/-- Evaluating the subtrees of one priority keeps the value of the tree. -/
theorem value?_squash (store : Store) (level : Int) (t : Tree) :
    ((t.squash store level).bind fun u => u.value? store) = t.value? store := by
  induction t with
  | leaf x => rfl
  | node op left right ihl ihr =>
    rw [squash]
    by_cases mine : op.priority = level
    · rw [if_pos mine, settle?]
      cases (node op left right).value? store <;> rfl
    · rw [if_neg mine, value?_node, ← ihl, ← ihr]
      cases left.squash store level with
      | none => rfl
      | some l =>
        cases right.squash store level with
        | none =>
          simp only [Option.map_none, Option.bind_none, Option.bind_some]
          cases l.value? store <;> rfl
        | some r => exact value?_node store op l r

theorem settle?_squash (store : Store) (level : Int) (t : Tree) :
    ((t.squash store level).bind fun u => u.settle? store) = t.settle? store := by
  cases t with
  | leaf x => rfl
  | node op left right =>
    have kept := value?_squash store level (node op left right)
    rw [squash] at kept ⊢
    by_cases mine : op.priority = level
    · rw [if_pos mine]
      cases (node op left right).settle? store <;> rfl
    · -- The root stays, so that what is left is a node too.
      rw [if_neg mine] at kept ⊢
      rw [settle?, ← kept]
      cases left.squash store level with
      | none => rfl
      | some l => cases right.squash store level <;> rfl

/-- After the passes of all its priorities a chain is what its tree comes to. -/
theorem reduces_chain (store : Store) {levels : List Int} (descending : levels.Pairwise (· > ·)) :
    ∀ {t : Tree}, t.Ordered → (∀ op ∈ t.chain.operators, op.priority ∈ levels) →
      t.chain.reduces store levels = (t.settle? store).map fun x => ⟨x, []⟩ := by
  induction levels with
  | nil =>
    intro t _ awaits
    obtain ⟨x, rfl⟩ := eq_leaf (List.eq_nil_iff_forall_not_mem.mpr fun op member =>
      List.not_mem_nil (awaits op member))
    rfl
  | cons level levels ih =>
    intro t ordered awaits
    obtain ⟨above, descending⟩ := List.pairwise_cons.mp descending
    have bounded : ∀ op ∈ t.chain.operators, op.priority ≤ level := by
      intro op member
      rcases List.mem_cons.mp (awaits op member) with here | later
      · exact Int.le_of_eq here
      · exact Int.le_of_lt (above _ later)
    rw [Chain.reduces, reduce_chain ordered bounded, ← settle?_squash store level t]
    cases squashed : t.squash store level with
    | none => rfl
    | some u =>
      refine ih descending (ordered_squash ordered bounded squashed) ?_
      intro op member
      rw [operators_squash ordered bounded squashed] at member
      obtain ⟨member, other⟩ := List.mem_filter.mp member
      have differs : op.priority ≠ level := by simpa using other
      exact (List.mem_cons.mp (awaits op member)).resolve_left differs

end Tree

/-- The passes of all its priorities reduce a chain to what its precedence tree comes to. -/
theorem Chain.reduces_eq_tree {store : Store} {levels : List Int}
    (descending : levels.Pairwise (· > ·)) {c : Chain Operand}
    (awaits : ∀ op ∈ c.operators, op.priority ∈ levels) :
    c.reduces store levels = (c.tree.settle? store).map fun x => ⟨x, []⟩ := by
  have reduced := Tree.reduces_chain store descending c.ordered_tree
  rw [c.chain_tree] at reduced
  exact reduced awaits

end Scriptlet
