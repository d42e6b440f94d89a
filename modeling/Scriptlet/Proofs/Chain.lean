import Scriptlet.Reduction
set_option autoImplicit false

/-!
# Rows as chains

A row in which no two operands are neighbours is a chain: places with operators between them.  A
place holds an operand or nothing, which is how the left side of a sign looks, and also any other
side where an operand is missing.  Applying all operators of one priority is then a single walk
along the chain from left to right, a *pass*, and reduction is six passes.
-/

namespace Scriptlet

/-! ## Operands and places -/

/-- A token that is not an operator. -/
inductive Operand where
  | value (v : Value)
  | label (l : Label)

namespace Operand

/-- The token an operand is. -/
def token : Operand → Token
  | value v => .value v
  | label l => .label l

/-- What a sign has on its left. -/
def zero : Operand := .value (.number 0.0)

@[simp] theorem operator?_token (x : Operand) : x.token.operator? = none := by
  cases x <;> rfl

@[simp] theorem isOperator_token (x : Operand) : x.token.isOperator = false := by
  cases x <;> rfl

@[simp] theorem isThe_token (x : Operand) (op : Operator) : x.token.isThe op = false := by
  cases x <;> rfl

end Operand

/-- The tokens at a place: one or none. -/
def placeTokens (place : Option Operand) : List Token := (place.map Operand.token).toList

@[simp] theorem placeTokens_none : placeTokens none = [] := rfl

@[simp] theorem placeTokens_some (x : Operand) : placeTokens (some x) = [x.token] := rfl

/-! ## Chains -/

/-- Things with operators between them. -/
structure Chain (α : Type) where
  head : α
  tail : List (Operator × α)

namespace Chain

variable {α β : Type}

/-- The operators of a chain, from left to right. -/
def operators (c : Chain α) : List Operator := c.tail.map Prod.fst

/-- Two chains with an operator between them. -/
def join (c : Chain α) (op : Operator) (d : Chain α) : Chain α :=
  ⟨c.head, c.tail ++ (op, d.head) :: d.tail⟩

/-- The same operators between other things. -/
def map (f : α → β) (c : Chain α) : Chain β :=
  ⟨f c.head, c.tail.map fun link => (link.1, f link.2)⟩

@[simp] theorem operators_mk (head : α) (tail : List (Operator × α)) :
    (mk head tail).operators = tail.map Prod.fst := rfl

@[simp] theorem operators_join (c d : Chain α) (op : Operator) :
    (c.join op d).operators = c.operators ++ op :: d.operators := by
  simp [operators, join]

@[simp] theorem operators_map (f : α → β) (c : Chain α) : (c.map f).operators = c.operators := by
  simp [operators, map, Function.comp_def]

@[simp] theorem map_join (f : α → β) (c d : Chain α) (op : Operator) :
    (c.join op d).map f = (c.map f).join op (d.map f) := by
  simp [map, join]

theorem map_map {γ : Type} (f : α → β) (g : β → γ) (c : Chain α) :
    (c.map f).map g = c.map (g ∘ f) := by
  simp [map, Function.comp_def]

end Chain

/-- The tokens of the links of a chain. -/
def linkTokens : List (Operator × Option Operand) → List Token
  | [] => []
  | (op, place) :: rest => .operator op :: (placeTokens place ++ linkTokens rest)

/-- The row a chain of places stands for. -/
def Chain.tokens (c : Chain (Option Operand)) : List Token :=
  placeTokens c.head ++ linkTokens c.tail

theorem linkTokens_append (first second : List (Operator × Option Operand)) :
    linkTokens (first ++ second) = linkTokens first ++ linkTokens second := by
  induction first with
  | nil => rfl
  | cons link rest ih => simp [linkTokens, ih]

theorem Chain.tokens_join (c d : Chain (Option Operand)) (op : Operator) :
    (c.join op d).tokens = c.tokens ++ .operator op :: d.tokens := by
  simp [Chain.tokens, join, linkTokens_append, linkTokens]

@[simp] theorem filterMap_placeTokens (place : Option Operand) :
    (placeTokens place).filterMap Token.operator? = [] := by
  cases place <;> simp

theorem filterMap_linkTokens (links : List (Operator × Option Operand)) :
    (linkTokens links).filterMap Token.operator? = links.map Prod.fst := by
  induction links with
  | nil => rfl
  | cons link rest ih =>
    rw [linkTokens, List.filterMap_cons, List.filterMap_append, ih]
    simp [Token.operator?]

/-- The operators of a chain are those of its row. -/
theorem Chain.filterMap_tokens (c : Chain (Option Operand)) :
    c.tokens.filterMap Token.operator? = c.operators := by
  simp [tokens, operators, List.filterMap_append, filterMap_linkTokens]

/-- The operators a statement lists are those of its row, in the same order. -/
def Statement.Mirrored (st : Statement) : Prop :=
  st.operators = st.tokens.filterMap Token.operator?

theorem Statement.mirrored_ofTokens (tokens : List Token) : (ofTokens tokens).Mirrored := rfl

theorem Statement.Mirrored.eq_ofTokens {st : Statement} (mirrored : st.Mirrored) :
    st = ofTokens st.tokens := by
  obtain ⟨tokens, operators⟩ := st
  exact congrArg (Statement.mk tokens) mirrored

/-! ## Rows that are chains -/

/-- No two tokens that stand side by side are both operands. -/
def Apart : List Token → Prop
  | [] => True
  | [_] => True
  | first :: second :: rest =>
    (first.isOperator = true ∨ second.isOperator = true) ∧ Apart (second :: rest)

theorem Apart.tail {token : Token} {rest : List Token} (apart : Apart (token :: rest)) :
    Apart rest := by
  cases rest with
  | nil => trivial
  | cons second rest => exact apart.2

/-- Of two rows with a token in common, the end of the one and the start of the other, only whether
that token is an operator matters. -/
theorem apart_append_cons {front rest : List Token} {token : Token} :
    Apart (front ++ token :: rest) ↔ Apart (front ++ [token]) ∧ Apart (token :: rest) := by
  induction front with
  | nil => simp [Apart]
  | cons first front ih =>
    cases front with
    | nil => simp [Apart]
    | cons second front =>
      simp only [List.cons_append, Apart] at ih ⊢
      rw [ih, and_assoc]

/-- The last token of a row may be replaced by one that is an operator just when it is. -/
theorem Apart.replaceLast {front : List Token} {old new : Token}
    (apart : Apart (front ++ [old])) (same : new.isOperator = old.isOperator) :
    Apart (front ++ [new]) := by
  induction front with
  | nil => trivial
  | cons first front ih =>
    cases front with
    | nil =>
      simp only [List.cons_append, List.nil_append, Apart, and_true] at apart ⊢
      rwa [same]
    | cons second front => exact ⟨apart.1, ih apart.2⟩

/-- An operator may end any row. -/
theorem Apart.endsWithOperator {front : List Token} {old : Token} (apart : Apart (front ++ [old]))
    (op : Operator) : Apart (front ++ [.operator op]) := by
  induction front with
  | nil => trivial
  | cons first front ih =>
    cases front with
    | nil => exact ⟨.inr rfl, trivial⟩
    | cons second front => exact ⟨apart.1, ih apart.2⟩

theorem Apart.replaceHead {rest : List Token} {old new : Token} (apart : Apart (old :: rest))
    (same : new.isOperator = old.isOperator) : Apart (new :: rest) := by
  cases rest with
  | nil => trivial
  | cons second rest => exact ⟨by rw [same]; exact apart.1, apart.2⟩

/-- A row in which no two operands are neighbours is a chain. -/
theorem Apart.exists_chain {tokens : List Token} (apart : Apart tokens) :
    ∃ c : Chain (Option Operand), c.tokens = tokens := by
  induction tokens with
  | nil => exact ⟨⟨none, []⟩, rfl⟩
  | cons token rest ih =>
    obtain ⟨c, hc⟩ := ih apart.tail
    have operand (x : Operand) (hx : x.token = token) :
        ∃ c : Chain (Option Operand), c.tokens = token :: rest := by
      -- The place in front of the rest is free: its first token is an operator.
      cases hhead : c.head with
      | none =>
        refine ⟨⟨some x, c.tail⟩, ?_⟩
        rw [← hc]
        simp [Chain.tokens, hhead, hx]
      | some y =>
        rw [Chain.tokens, hhead] at hc
        rw [← hc, ← hx] at apart
        simp [Apart] at apart
    cases token with
    | value v => exact operand (.value v) rfl
    | label l => exact operand (.label l) rfl
    | operator op =>
      refine ⟨⟨none, (op, c.head) :: c.tail⟩, ?_⟩
      rw [← hc]
      rfl

/-! ## One pass -/

/-- What an operator takes on its left: the operand there or, for a sign, zero. -/
def leftToken? (op : Operator) : Option Operand → Option Token
  | some x => some x.token
  | none => if op.isSign then some Operand.zero.token else none

/-- The operand that stands for an outcome; a mutation is carried out. -/
def Outcome.settleOperand : Outcome → Action Operand
  | value v => return .value v
  | mutation m => do
    let _ ← m.commit
    return .label m.target

theorem Outcome.settle_eq (outcome : Outcome) :
    outcome.settle = Operand.token <$> outcome.settleOperand := by
  cases outcome with
  | value v => rfl
  | mutation m =>
    simp only [settle, settleOperand, map_bind, map_pure]
    rfl

/-- Applies an operator to the places beside it; `next` is the operator that follows on its
right. -/
def combine (op : Operator) (left right : Option Operand) (next : Option Operator) :
    Action Operand :=
  match right, next with
  | none, none => .fail (.rightMissing op)
  | none, some other =>
    match leftToken? op left with
    | some _ => .fail (.operandIsOperator op other)
    | none => .fail (.notSign op)
  | some right, _ =>
    match leftToken? op left with
    | some left => do
      let outcome ← Action.ask (op.evaluate left right.token)
      outcome.settleOperand
    | none => .fail (.notSign op)

/-- Applies the operators of one priority from left to right. -/
def passFrom (level : Int) (place : Option Operand) :
    List (Operator × Option Operand) → Action (Chain (Option Operand))
  | [] => return ⟨place, []⟩
  | (op, right) :: rest =>
    if op.priority = level then do
      let result ← combine op place right (rest.head?.map Prod.fst)
      passFrom level (some result) rest
    else do
      let c ← passFrom level right rest
      return ⟨place, (op, c.head) :: c.tail⟩

/-- Applies the operators of one priority from left to right. -/
def Chain.pass (level : Int) (c : Chain (Option Operand)) : Action (Chain (Option Operand)) :=
  passFrom level c.head c.tail

/-- Passes of several priorities, one after the other. -/
def Chain.passes : List Int → Chain (Option Operand) → Action (Chain (Option Operand))
  | [], c => return c
  | level :: rest, c => do
    let reduced ← c.pass level
    reduced.passes rest

theorem passFrom_append {level : Int} {op : Operator} (other : op.priority ≠ level)
    (right : Option Operand) (rest : List (Operator × Option Operand))
    (links : List (Operator × Operand)) :
    ∀ x : Operand, passFrom level (some x)
        ((links.map fun link => (link.1, some link.2)) ++ (op, right) :: rest) = do
      let c ← passFrom level (some x) (links.map fun link => (link.1, some link.2))
      let d ← passFrom level right rest
      return c.join op d := by
  induction links with
  | nil =>
    intro x
    simp only [List.map_nil, List.nil_append, passFrom, if_neg other, pure_bind]
    rfl
  | cons link links ih =>
    intro x
    rw [List.map_cons, List.cons_append, passFrom, passFrom]
    by_cases mine : link.1.priority = level
    · -- What follows matters to an application only where its right operand is missing.
      rw [if_pos mine, if_pos mine, bind_assoc]
      exact congrArg _ (funext ih)
    · rw [if_neg mine, if_neg mine, ih link.2]
      simp [Chain.join]

/-- Both sides of an operator of another priority are passed over one after the other, if no operand
is missing on its left. -/
theorem Chain.pass_join {level : Int} {op : Operator} (other : op.priority ≠ level)
    (c : Chain Operand) (d : Chain (Option Operand)) :
    ((c.map some).join op d).pass level = do
      let c ← (c.map some).pass level
      let d ← d.pass level
      return c.join op d :=
  passFrom_append other d.head d.tail c.tail c.head

/-! ## A pass applies the operators of its priority -/

theorem splitAtOperator_append {op : Operator} {front rest : List Token}
    (absent : ∀ token ∈ front, token.isThe op = false) (passed : List Token) :
    splitAtOperator op passed (front ++ .operator op :: rest) =
      some (front.reverse ++ passed, rest) := by
  induction front generalizing passed with
  | nil => simp [splitAtOperator, Token.isThe]
  | cons token front ih =>
    have here : token.isThe op = false := absent token (by simp)
    rw [List.cons_append, splitAtOperator, here]
    simp [ih (fun t ht => absent t (by simp [ht]))]

/-- The row in front of a place: operators of the present priority are gone from it, and it ends
with an operator, unless it is empty. -/
structure Passed (level : Int) (front : List Token) : Prop where
  others : ∀ op : Operator, .operator op ∈ front → op.priority ≠ level
  ends : leftOperand? front.reverse = none

theorem Passed.nil (level : Int) : Passed level [] := ⟨by simp, rfl⟩

theorem Passed.extend {level : Int} {front : List Token} (passed : Passed level front)
    (place : Option Operand) {op : Operator} (other : op.priority ≠ level) :
    Passed level (front ++ (placeTokens place ++ [.operator op])) := by
  constructor
  · intro op' member
    rcases List.mem_append.mp member with earlier | last
    · exact passed.others op' earlier
    · cases place with
      | none => simp_all
      | some x => cases x <;> simp_all [Operand.token]
  · cases place <;> simp [leftOperand?, Token.isOperator]

theorem Passed.absent {level : Int} {front : List Token} (passed : Passed level front)
    {op : Operator} (mine : op.priority = level) (place : Option Operand) :
    ∀ token ∈ front ++ placeTokens place, token.isThe op = false := by
  intro token member
  rcases List.mem_append.mp member with earlier | here
  · cases token with
    | value v => rfl
    | label l => rfl
    | operator other =>
      have differs : other ≠ op := by
        rintro rfl
        exact passed.others other earlier mine
      simpa [Token.isThe] using differs
  · cases place with
    | none => simp at here
    | some x =>
      rw [placeTokens_some, List.mem_singleton] at here
      rw [here]
      simp

theorem leftOperand?_front {level : Int} {front : List Token} (passed : Passed level front) :
    ∀ place : Option Operand, leftOperand? (front ++ placeTokens place).reverse =
      place.map fun x => (x.token, front.reverse)
  | none => by simpa using passed.ends
  | some x => by simp [leftOperand?]

/-- An operator with a value reads both operands and combines what they hold. -/
theorem evaluate_value {op : Operator} (computes : op.isDeclaration = false)
    (left right : Operand) (store : Store) :
    op.evaluate left.token right.token store = do
      let a ← left.token.resolved store
      let b ← right.token.resolved store
      return .value (← op.apply a b) := by
  unfold Operator.evaluate
  cases left <;> cases right <;> exact if_neg (by simp [computes])

/-- A declaration with a label on its left reads its right operand only. -/
theorem evaluate_declaration {op : Operator} (declares : op.isDeclaration = true)
    (target : Label) (right : Operand) (store : Store) :
    op.evaluate (Operand.label target).token right.token store = do
      let value ← right.token.resolved store
      return .mutation ⟨target, op, value⟩ := by
  unfold Operator.evaluate
  cases right <;> exact if_pos declares

theorem evaluate_notName {op : Operator} (declares : op.isDeclaration = true) (v : Value)
    (right : Operand) (store : Store) :
    op.evaluate (Operand.value v).token right.token store = .error (.notName op) := by
  unfold Operator.evaluate
  cases right <;> exact if_pos declares

theorem evaluate_operator_right (op other : Operator) (left : Operand) (store : Store) :
    op.evaluate left.token (.operator other) store = .error (.operandIsOperator op other) := by
  cases left <;> rfl

/-- Applying the first operator of the present priority is combining the places beside it. -/
theorem applyFirst_link {level : Int} {front : List Token} (passed : Passed level front)
    {op : Operator} (mine : op.priority = level) (place right : Option Operand)
    (rest : List (Operator × Option Operand)) :
    applyFirst op (front ++ (placeTokens place ++ linkTokens ((op, right) :: rest))) =
      (fun result => front ++ (placeTokens (some result) ++ linkTokens rest)) <$>
        combine op place right (rest.head?.map Prod.fst) := by
  have split : splitAtOperator op []
      (front ++ (placeTokens place ++ linkTokens ((op, right) :: rest))) =
      some ((front ++ placeTokens place).reverse, placeTokens right ++ linkTokens rest) := by
    rw [linkTokens, ← List.append_assoc, splitAtOperator_append (passed.absent mine place)]
    simp
  have left := leftOperand?_front passed place
  rw [applyFirst, split]
  cases right with
  | none =>
    cases rest with
    | nil => rfl
    | cons link rest =>
      -- The token on the right is the operator of the next link.
      simp only [placeTokens_none, List.nil_append, linkTokens, left, combine, List.head?_cons,
        Option.map_some]
      cases place with
      | none =>
        simp only [Option.map_none, leftToken?]
        split
        · funext store
          exact Action.bind_of_error (by
            rw [Action.ask_apply]
            exact congrArg (·, store) (evaluate_operator_right op link.1 .zero store))
        · rfl
      | some x =>
        funext store
        exact Action.bind_of_error (by
          rw [Action.ask_apply]
          exact congrArg (·, store) (evaluate_operator_right op link.1 x store))
  | some y =>
    simp only [placeTokens_some, List.singleton_append, left, combine]
    cases place with
    | none =>
      simp only [Option.map_none, leftToken?]
      split
      · simp only [Outcome.settle_eq, map_bind, bind_map_left, List.reverseAux_eq,
          placeTokens_none, List.append_nil, List.reverse_reverse]
        rfl
      · rfl
    | some x =>
      simp only [Option.map_some, leftToken?, Outcome.settle_eq, map_bind, bind_map_left,
        List.reverseAux_eq, List.reverse_reverse]
      rfl

/-- The operators of one priority, applied to a row one after the other, make a pass. -/
theorem applyAll_passFrom (level : Int) (links : List (Operator × Option Operand)) :
    ∀ {front : List Token} (place : Option Operand), Passed level front →
      applyAll ((links.map Prod.fst).filter fun op => op.priority == level)
          (front ++ (placeTokens place ++ linkTokens links)) =
        (fun c => front ++ c.tokens) <$> passFrom level place links := by
  induction links with
  | nil =>
    intro front place _
    rfl
  | cons link rest ih =>
    obtain ⟨op, right⟩ := link
    intro front place passed
    by_cases mine : op.priority = level
    · rw [List.map_cons, List.filter_cons_of_pos (by simpa using mine), applyAll,
        applyFirst_link passed mine, passFrom, if_pos mine, map_bind, bind_map_left]
      exact congrArg _ (funext fun result => ih (some result) passed)
    · have shift : front ++ (placeTokens place ++ linkTokens ((op, right) :: rest)) =
          (front ++ (placeTokens place ++ [.operator op])) ++
            (placeTokens right ++ linkTokens rest) := by
        simp [linkTokens]
      rw [List.map_cons, List.filter_cons_of_neg (by simpa using mine), shift,
        ih right (passed.extend place mine), passFrom, if_neg mine, map_bind]
      rw [map_eq_pure_bind]
      refine congrArg _ (funext fun c => ?_)
      simp [Chain.tokens, linkTokens]

/-! ## Reduction is six passes -/

/-- A pass takes the operators of its priority out and keeps the others in order. -/
theorem operators_passFrom {level : Int} {links : List (Operator × Option Operand)} :
    ∀ {place : Option Operand} {c : Chain (Option Operand)} {store after : Store},
      passFrom level place links store = (.ok c, after) →
      c.operators = (links.map Prod.fst).filter fun op => op.priority != level := by
  induction links with
  | nil =>
    intro place c store after done
    cases done
    rfl
  | cons link rest ih =>
    obtain ⟨op, right⟩ := link
    intro place c store after done
    rw [passFrom] at done
    by_cases mine : op.priority = level
    · rw [if_pos mine] at done
      obtain ⟨result, between, _, done⟩ := Action.bind_ok done
      rw [ih done, List.map_cons, List.filter_cons_of_neg (by simp [mine])]
    · rw [if_neg mine] at done
      obtain ⟨d, between, passed, done⟩ := Action.bind_ok done
      cases done
      have kept := ih passed
      rw [List.map_cons, List.filter_cons_of_pos (by simp [mine]), ← kept]
      rfl

theorem Chain.operators_pass {level : Int} {c d : Chain (Option Operand)} {store after : Store}
    (done : c.pass level store = (.ok d, after)) :
    d.operators = c.operators.filter fun op => op.priority != level :=
  operators_passFrom done

theorem Action.bind_congr {α β : Type} {first : Action α} {next other : α → Action β}
    (same : ∀ store a after, first store = (.ok a, after) → next a = other a) :
    first >>= next = first >>= other := by
  funext store
  rw [bind_apply, bind_apply]
  split
  · rename_i a after done
    rw [same store a after done]
  · rfl

theorem applyAll_append (first second : List Operator) :
    ∀ tokens : List Token, applyAll (first ++ second) tokens =
      applyAll first tokens >>= applyAll second := by
  induction first with
  | nil =>
    intro tokens
    simp [applyAll]
  | cons op first ih =>
    intro tokens
    simp only [List.cons_append, applyAll, bind_assoc]
    exact congrArg _ (funext ih)

/-- The operators of several priorities, one priority after the other, make one pass each. -/
theorem Chain.applyAll_passes (levels : List Int) (distinct : levels.Nodup) :
    ∀ c : Chain (Option Operand),
      applyAll (levels.flatMap fun level => c.operators.filter fun op => op.priority == level)
        c.tokens = Chain.tokens <$> c.passes levels := by
  induction levels with
  | nil =>
    intro c
    rfl
  | cons level levels ih =>
    intro c
    obtain ⟨fresh, distinct⟩ := List.nodup_cons.mp distinct
    have first : applyAll (c.operators.filter fun op => op.priority == level) c.tokens =
        Chain.tokens <$> c.pass level :=
      applyAll_passFrom level c.tail c.head (Passed.nil level)
    rw [List.flatMap_cons, applyAll_append, first, passes, map_bind, bind_map_left]
    refine Action.bind_congr fun store d after done => ?_
    -- The other priorities find the same operators as before the pass.
    have same (other : Int) (member : other ∈ levels) :
        (c.operators.filter fun op => op.priority == other) =
          d.operators.filter fun op => op.priority == other := by
      have differs : other ≠ level := fun same => fresh (same ▸ member)
      rw [operators_pass done, List.filter_filter]
      refine List.filter_congr fun op _ => ?_
      by_cases here : op.priority = other <;> simp [here, differs]
    rw [← ih distinct d, List.flatMap_def, List.flatMap_def, List.map_congr_left same]

/-- A statement that is a chain is evaluated by one pass for each priority. -/
theorem Chain.evaluate_eq_passes (c : Chain (Option Operand)) :
    (Statement.mk c.tokens c.operators).evaluate =
      c.passes priorities >>= fun d => Action.ask (collect d.tokens) := by
  rw [Statement.evaluate, reductionOrder, applyAll_passes priorities (by decide), bind_map_left]

end Scriptlet
