import Scriptlet.Proofs.Grammar
set_option autoImplicit false

/-!
# What reduction accepts

Reduction checks the shape of a row piece by piece, while the row is changing: an operator looks for
something on its right, a sign for nothing on its left, an application for operands, and the end of
it all for values and separators in turn.  Together these checks accept exactly the grammar.  The
invariant is that the chain of the row is grounded, and a pass keeps it in both directions: it leads
from grounded chains to grounded chains, failing at most for want of a name or a number, and a chain
from which it reached a grounded one was grounded before.
-/

namespace Scriptlet

/-! ## Faults of access -/

/-- A name, a field or a value of some type is not there. -/
def Fault.IsAccess (fault : Fault) : Prop := fault.code.number ∈ [310, 350, 370, 380, 399]

theorem asNumber_fault {v : Value} {fault : Fault} (failed : v.asNumber = .error fault) :
    fault.IsAccess := by
  cases v <;> cases failed <;> simp [Fault.IsAccess, Fault.code]

theorem arithmetic_fault {f : Float → Float → Float} {a b : Value} {fault : Fault}
    (failed : arithmetic f a b = .error fault) : fault.IsAccess := by
  unfold arithmetic at failed
  split at failed
  · rename_i left
    cases failed
    exact asNumber_fault left
  · split at failed
    · rename_i right
      cases failed
      exact asNumber_fault right
    · cases failed

/-- An operator above the declarations gives a value or wants a number. -/
theorem apply_fault {op : Operator} {a b : Value} {fault : Fault} (above : 10 < op.priority)
    (failed : op.apply a b = .error fault) : fault.IsAccess := by
  cases op with
  | equal => cases failed
  | unequal => cases failed
  | add => exact arithmetic_fault failed
  | sub => exact arithmetic_fault failed
  | mul => exact arithmetic_fault failed
  | div => exact arithmetic_fault failed
  | rem => exact arithmetic_fault failed
  | pow => exact arithmetic_fault failed
  | separator => exact absurd above (by decide)
  | declare => exact absurd above (by decide)
  | addTo => exact absurd above (by decide)
  | subTo => exact absurd above (by decide)
  | mulTo => exact absurd above (by decide)
  | divTo => exact absurd above (by decide)

theorem resolved_fault {x : Operand} {store : Store} {fault : Fault}
    (failed : x.token.resolved store = .error fault) : fault.IsAccess := by
  cases x with
  | value v => cases failed
  | label l =>
    rw [Operand.token, Token.resolved, Label.resolve, Store.resolve] at failed
    split at failed <;> cases failed
    simp [Fault.IsAccess, Fault.code]

theorem declare_fault {id : ScopeId} {name : String} {value : Value} {store after : Store}
    {fault : Fault} (failed : declare id name value store = (.error fault, after)) :
    fault.IsAccess := by
  unfold declare at failed
  split at failed
  · cases failed
  · split at failed <;> cases failed
    simp [Fault.IsAccess, Fault.code]

theorem base?_above {op base : Operator} (found : op.base? = some base) : 10 < base.priority := by
  cases op <;> cases found <;> decide

theorem commit_fault {m : Mutation} {store after : Store} {fault : Fault}
    (failed : m.commit store = (.error fault, after)) : fault.IsAccess := by
  cases found : m.operator.base? with
  | none =>
    simp only [Mutation.commit, found] at failed
    rcases Action.bind_error failed with failed | ⟨_, _, _, failed⟩
    · exact declare_fault failed
    · cases failed
  | some base =>
    simp only [Mutation.commit, found, changeBy] at failed
    rcases Action.bind_error failed with failed | ⟨present, _, _, failed⟩
    · rw [Action.ask_apply] at failed
      split at failed <;> cases failed
      simp [Fault.IsAccess, Fault.code]
    rcases Action.bind_error failed with failed | ⟨next, _, _, failed⟩
    · injection failed with failed _
      exact apply_fault (base?_above found) failed
    rcases Action.bind_error failed with failed | ⟨_, _, _, failed⟩
    · exact declare_fault failed
    · cases failed

theorem settleOperand_fault {outcome : Outcome} {store after : Store} {fault : Fault}
    (failed : outcome.settleOperand store = (.error fault, after)) : fault.IsAccess := by
  cases outcome with
  | value v => cases failed
  | mutation m =>
    rcases Action.bind_error failed with failed | ⟨_, _, _, failed⟩
    · exact commit_fault failed
    · cases failed

theorem except_bind_ok {α β : Type} {first : Except Fault α} {next : α → Except Fault β} {b : β}
    (done : first >>= next = .ok b) : ∃ a, first = .ok a ∧ next a = .ok b := by
  cases first with
  | error fault => cases done
  | ok a => exact ⟨a, rfl, done⟩

theorem except_bind_error {α β : Type} {first : Except Fault α} {next : α → Except Fault β}
    {fault : Fault} (failed : first >>= next = .error fault) :
    first = .error fault ∨ ∃ a, first = .ok a ∧ next a = .error fault := by
  cases first with
  | error other => exact .inl (by cases failed; rfl)
  | ok a => exact .inr ⟨a, rfl, failed⟩

/-- An operator between two operands fails only for want of a name, a field or a number. -/
theorem evaluate_fault {op : Operator} {left right : Operand} {store : Store} {fault : Fault}
    (applied : 10 ≤ op.priority)
    (failed : op.evaluate left.token right.token store = .error fault) : fault.IsAccess := by
  cases declares : op.isDeclaration with
  | true =>
    cases left with
    | value v =>
      rw [evaluate_notName declares] at failed
      cases failed
      simp [Fault.IsAccess, Fault.code]
    | label l =>
      rw [evaluate_declaration declares] at failed
      rcases except_bind_error failed with failed | ⟨v, _, failed⟩
      · exact resolved_fault failed
      · cases failed
  | false =>
    have above : 10 < op.priority := by
      have differs : op.priority ≠ 10 := fun same => by
        rw [op.isDeclaration_iff.mpr same] at declares
        cases declares
      omega
    rw [evaluate_value declares] at failed
    rcases except_bind_error failed with failed | ⟨a, _, failed⟩
    · exact resolved_fault failed
    rcases except_bind_error failed with failed | ⟨b, _, failed⟩
    · exact resolved_fault failed
    rcases except_bind_error failed with failed | ⟨v, _, failed⟩
    · exact apply_fault above failed
    · cases failed

/-! ## One pass -/

/-- An application that succeeds had an operand on its right, and one on its left unless its
operator is a sign. -/
theorem combine_ok {op : Operator} {left right : Option Operand} {next : Option Operator}
    {result : Operand} {store after : Store}
    (done : combine op left right next store = (.ok result, after)) :
    right.isSome = true ∧ (left.isSome = true ∨ op.isSign = true) := by
  cases right with
  | none =>
    cases next with
    | none => cases done
    | some other =>
      cases taken : leftToken? op left <;> simp only [combine, taken] at done <;> cases done
  | some r =>
    refine ⟨rfl, ?_⟩
    cases left with
    | some l => exact .inl rfl
    | none =>
      simp only [combine, leftToken?] at done
      by_cases sign : op.isSign = true
      · exact .inr sign
      · rw [if_neg sign] at done
        cases done

/-- An application with operands where they have to be fails only for want of a name, a field or a
number. -/
theorem combine_fault {op : Operator} {left right : Option Operand} {next : Option Operator}
    {store after : Store} {fault : Fault} (applied : 10 ≤ op.priority)
    (present : right.isSome = true) (signed : left.isSome = true ∨ op.isSign = true)
    (failed : combine op left right next store = (.error fault, after)) : fault.IsAccess := by
  obtain ⟨r, rfl⟩ := Option.isSome_iff_exists.mp present
  have taken : ∃ l : Operand, leftToken? op left = some l.token := by
    cases left with
    | some l => exact ⟨l, rfl⟩
    | none =>
      rcases signed with none_some | sign
      · cases none_some
      · exact ⟨.zero, by simp [leftToken?, sign]⟩
  obtain ⟨l, taken⟩ := taken
  simp only [combine, taken] at failed
  rcases Action.bind_error failed with failed | ⟨outcome, _, _, failed⟩
  · injection failed with failed _
    exact evaluate_fault applied failed
  · exact settleOperand_fault failed

/-- A pass that ended in a grounded chain started from one. -/
theorem grounded_of_passFrom {level : Int} {links : List (Operator × Option Operand)} :
    ∀ {before : Option Operator} {place : Option Operand} {c : Chain (Option Operand)}
      {store after : Store},
      (∀ op ∈ links.map Prod.fst, op.priority ≤ level) →
      (∀ earlier ∈ before, earlier.priority < level) →
      passFrom level place links store = (.ok c, after) → c.Grounded before →
      GroundedFrom before place links := by
  induction links with
  | nil =>
    intro before place c store after _ _ done grounded
    cases done
    exact grounded
  | cons link rest ih =>
    obtain ⟨op, right⟩ := link
    intro before place c store after below lower done grounded
    have here : op.priority ≤ level := below op (by simp)
    have later : ∀ op ∈ rest.map Prod.fst, op.priority ≤ level :=
      fun op member => below op (by simp_all)
    rw [passFrom] at done
    by_cases mine : op.priority = level
    · rw [if_pos mine] at done
      obtain ⟨result, between, combined, passed⟩ := Action.bind_ok done
      obtain ⟨present, signed⟩ := combine_ok combined
      obtain ⟨r, hr⟩ := Option.isSome_iff_exists.mp present
      have rest_grounded := ih later lower passed grounded
      refine ⟨?_, hr ▸ rest_grounded.of_some⟩
      rcases signed with operand | sign
      · exact .inl operand
      · refine .inr ⟨sign, fun earlier member => ?_⟩
        -- What comes before has not been applied in this pass, so it is not additive.
        have lower := lower earlier member
        rw [← mine, op.isSign_iff.mp sign] at lower
        exact earlier.isArithmetic_eq_false_iff.mpr lower
    · rw [if_neg mine] at done
      obtain ⟨d, between, passed, done⟩ := Action.bind_ok done
      cases done
      have lower' : ∀ earlier ∈ some op, earlier.priority < level := by
        intro earlier member
        cases member
        omega
      exact ⟨grounded.1, ih later lower' passed grounded.2⟩

/-- The place on the right of an operator is taken if no operator behind it has a higher priority:
a sign there would have been applied before. -/
theorem GroundedFrom.present {op : Operator} {right : Option Operand}
    {rest : List (Operator × Option Operand)} (grounded : GroundedFrom (some op) right rest)
    (bounded : ∀ next ∈ rest.map Prod.fst, next.priority ≤ op.priority) :
    right.isSome = true := by
  refine grounded.isSome ?_
  by_cases additive : 20 ≤ op.priority
  · exact .inl (op.isArithmetic_iff.mpr additive)
  · refine .inr fun next member => ?_
    have bound := bounded next member
    cases sign : next.isSign with
    | false => rfl
    | true =>
      rw [next.isSign_iff] at sign
      omega

/-- A pass keeps a chain grounded, and fails only for want of a name, a field or a number. -/
theorem grounded_passFrom {level : Int} (applied : 10 ≤ level)
    {links : List (Operator × Option Operand)} :
    ∀ {before : Option Operator} {place : Option Operand} (store : Store),
      (∀ op ∈ links.map Prod.fst, op.priority ≤ level) →
      GroundedFrom before place links →
      (∀ c after, passFrom level place links store = (.ok c, after) → c.Grounded before) ∧
      (∀ fault after, passFrom level place links store = (.error fault, after) →
        fault.IsAccess) := by
  induction links with
  | nil =>
    intro before place store _ grounded
    refine ⟨fun c after done => ?_, fun fault after failed => ?_⟩
    · cases done
      exact grounded
    · cases failed
  | cons link rest ih =>
    obtain ⟨op, right⟩ := link
    intro before place store below grounded
    have later : ∀ op ∈ rest.map Prod.fst, op.priority ≤ level :=
      fun op member => below op (by simp_all)
    rw [passFrom]
    by_cases mine : op.priority = level
    · rw [if_pos mine]
      have present : right.isSome = true := grounded.2.present (mine ▸ later)
      have signed : place.isSome = true ∨ op.isSign = true :=
        grounded.1.imp id And.left
      obtain ⟨r, rfl⟩ := Option.isSome_iff_exists.mp present
      have next (result : Operand) : GroundedFrom before (some result) rest := grounded.2.of_some
      refine ⟨fun c after done => ?_, fun fault after failed => ?_⟩
      · obtain ⟨result, between, _, done⟩ := Action.bind_ok done
        exact (ih between later (next result)).1 c after done
      · rcases Action.bind_error failed with failed | ⟨result, between, _, failed⟩
        · exact combine_fault (mine ▸ applied) rfl signed failed
        · exact (ih between later (next result)).2 fault after failed
    · rw [if_neg mine]
      obtain ⟨kept, fails⟩ := ih store later grounded.2
      refine ⟨fun c after done => ?_, fun fault after failed => ?_⟩
      · obtain ⟨d, between, passed, done⟩ := Action.bind_ok done
        cases done
        exact ⟨grounded.1, kept d _ passed⟩
      · rcases Action.bind_error failed with failed | ⟨_, _, _, failed⟩
        · exact fails fault after failed
        · cases failed

/-! ## All passes -/

/-- The operators of a chain are separators or wait for one of the passes to come. -/
def Chain.Awaits (levels : List Int) (c : Chain (Option Operand)) : Prop :=
  ∀ op ∈ c.operators, op.priority ∈ levels ∨ op.isSeparator = true

theorem Chain.awaits_priorities (c : Chain (Option Operand)) : c.Awaits priorities := by
  intro op _
  cases op <;> decide

/-- A list of priorities in the order of the passes. -/
structure Descending (levels : List Int) : Prop where
  sorted : levels.Pairwise (· > ·)
  applied : ∀ level ∈ levels, 10 ≤ level

theorem descending_priorities : Descending priorities := ⟨by decide, by decide⟩

theorem Descending.tail {level : Int} {levels : List Int} (h : Descending (level :: levels)) :
    Descending levels :=
  ⟨h.sorted.of_cons, fun other member => h.applied other (List.mem_cons_of_mem _ member)⟩

theorem Chain.Awaits.below {level : Int} {levels : List Int} {c : Chain (Option Operand)}
    (awaits : c.Awaits (level :: levels)) (h : Descending (level :: levels)) :
    ∀ op ∈ c.operators, op.priority ≤ level := by
  intro op member
  rcases awaits op member with later | separator
  · rcases List.mem_cons.mp later with here | later
    · exact Int.le_of_eq here
    · exact Int.le_of_lt (List.rel_of_pairwise_cons h.sorted later)
  · have bound := h.applied level (by simp)
    rw [op.isSeparator_iff] at separator
    omega

theorem Chain.Awaits.pass {level : Int} {levels : List Int} {c d : Chain (Option Operand)}
    {store after : Store} (awaits : c.Awaits (level :: levels))
    (done : c.pass level store = (.ok d, after)) : d.Awaits levels := by
  intro op member
  rw [operators_pass done, List.mem_filter] at member
  rcases awaits op member.1 with later | separator
  · rcases List.mem_cons.mp later with here | later
    · exact absurd here (by simpa using member.2)
    · exact .inl later
  · exact .inr separator

/-- Passes that ended in a grounded chain started from one. -/
theorem Chain.grounded_of_passes {levels : List Int} (h : Descending levels) :
    ∀ {c d : Chain (Option Operand)} {store after : Store}, c.Awaits levels →
      c.passes levels store = (.ok d, after) → d.Grounded none → c.Grounded none := by
  induction levels with
  | nil =>
    intro c d store after _ done grounded
    cases done
    exact grounded
  | cons level levels ih =>
    intro c d store after awaits done grounded
    obtain ⟨e, between, first, rest⟩ := Action.bind_ok done
    exact grounded_of_passFrom (awaits.below h) (by simp) first
      (ih h.tail (awaits.pass first) rest grounded)

/-- Passes keep a chain grounded, and fail only for want of a name, a field or a number. -/
theorem Chain.grounded_passes {levels : List Int} (h : Descending levels) :
    ∀ {c : Chain (Option Operand)} (store : Store), c.Awaits levels → c.Grounded none →
      (∀ d after, c.passes levels store = (.ok d, after) → d.Grounded none) ∧
      (∀ fault after, c.passes levels store = (.error fault, after) → fault.IsAccess) := by
  induction levels with
  | nil =>
    intro c store _ grounded
    refine ⟨fun d after done => ?_, fun fault after failed => ?_⟩
    · cases done
      exact grounded
    · cases failed
  | cons level levels ih =>
    intro c store awaits grounded
    obtain ⟨kept, fails⟩ :=
      grounded_passFrom (h.applied level (by simp)) store (awaits.below h) grounded
    refine ⟨fun d after done => ?_, fun fault after failed => ?_⟩
    · obtain ⟨e, between, first, rest⟩ := Action.bind_ok done
      exact (ih h.tail between (awaits.pass first) (kept e between first)).1 d after rest
    · rcases Action.bind_error failed with failed | ⟨e, between, first, failed⟩
      · exact fails fault after failed
      · exact (ih h.tail between (awaits.pass first) (kept e between first)).2 fault after failed

theorem Chain.operators_passes {levels : List Int} :
    ∀ {c d : Chain (Option Operand)} {store after : Store},
      c.passes levels store = (.ok d, after) →
      d.operators = c.operators.filter fun op => !levels.contains op.priority := by
  induction levels with
  | nil =>
    intro c d store after done
    cases done
    exact (List.filter_eq_self.mpr (by simp)).symm
  | cons level levels ih =>
    intro c d store after done
    obtain ⟨e, between, first, rest⟩ := Action.bind_ok done
    rw [ih rest, operators_pass first, List.filter_filter]
    refine List.filter_congr fun op _ => ?_
    by_cases here : op.priority = level <;> simp [here]

/-- Of the operators only the separators are left after all passes. -/
theorem Chain.operators_passes_priorities {c d : Chain (Option Operand)} {store after : Store}
    (done : c.passes priorities store = (.ok d, after)) :
    d.operators = c.operators.filter Operator.isSeparator := by
  rw [operators_passes done]
  refine List.filter_congr fun op _ => ?_
  cases op <;> decide

/-! ## The values -/

/-- Values are read off a chain with operands at all places, or with an operand missing at its
end, which shows in the number of its tokens. -/
theorem collectValues_ok {whole : List Token} {store : Store}
    {links : List (Operator × Option Operand)} :
    ∀ {place : Option Operand} {values : List Value} {before : Option Operator},
      collectValues whole store (placeTokens place ++ linkTokens links) = .ok values →
      GroundedFrom before place links ∧ values.length = links.length + 1 ∨
        (placeTokens place ++ linkTokens links).length % 2 = 0 := by
  induction links with
  | nil =>
    intro place values before read
    cases place with
    | none => exact .inr rfl
    | some x =>
      refine .inl ⟨rfl, ?_⟩
      rw [placeTokens_some, List.singleton_append,
        collectValues_cons _ _ x.isOperator_token] at read
      cases resolved : x.token.resolved store with
      | error fault =>
        rw [resolved] at read
        cases read
      | ok v =>
        rw [resolved] at read
        cases read
        rfl
  | cons link rest ih =>
    intro place values before read
    obtain ⟨op, right⟩ := link
    cases place with
    | none =>
      rw [placeTokens_none, List.nil_append, linkTokens, collectValues] at read
      cases read
    | some x =>
      rw [placeTokens_some, List.singleton_append,
        collectValues_cons _ _ x.isOperator_token] at read
      cases resolved : x.token.resolved store with
      | error fault =>
        rw [resolved] at read
        cases read
      | ok v =>
        rw [resolved, linkTokens, collectSeparator] at read
        by_cases separates : (Token.operator op).isSeparator = true
        · rw [if_pos separates] at read
          cases later : collectValues whole store (placeTokens right ++ linkTokens rest) with
          | error fault =>
            rw [later] at read
            cases read
          | ok others =>
            rw [later] at read
            cases read
            rcases ih later with ⟨grounded, length⟩ | even
            · exact .inl ⟨⟨.inl rfl, grounded⟩, by simp [length]⟩
            · refine .inr ?_
              simp only [placeTokens_some, linkTokens, List.length_append, List.length_cons,
                List.length_nil] at even ⊢
              omega
        · rw [if_neg separates] at read
          cases read

/-- A chain has values only when it is empty or grounded, and then one for each place. -/
theorem Chain.collect_ok {c : Chain (Option Operand)} {store : Store} {values : List Value}
    (read : collect c.tokens store = .ok values) :
    c.tokens = [] ∧ values = [] ∨ c.Grounded none ∧ values.length = c.tail.length + 1 := by
  rw [collect] at read
  split at read
  · cases read
  · rename_i odd
    rcases collectValues_ok read with grounded | even
    · exact .inr grounded
    · have empty : c.tokens = [] := by
        by_cases empty : c.tokens = []
        · exact empty
        · exact absurd ⟨even, empty⟩ odd
      rw [empty, collectValues] at read
      cases read
      exact .inl ⟨empty, rfl⟩

/-- The things of a chain, from left to right. -/
def Chain.operands {α : Type} (c : Chain α) : List α := c.head :: c.tail.map Prod.snd

/-- A grounded chain without signs has an operand at every place. -/
theorem GroundedFrom.exists_operands {links : List (Operator × Option Operand)} :
    ∀ {before : Option Operator} {place : Option Operand},
      (∀ op ∈ links.map Prod.fst, op.isSign = false) → GroundedFrom before place links →
      ∃ d : Chain Operand, Chain.mk place links = d.map some := by
  induction links with
  | nil =>
    intro before place _ grounded
    obtain ⟨x, rfl⟩ := Option.isSome_iff_exists.mp grounded
    exact ⟨⟨x, []⟩, rfl⟩
  | cons link rest ih =>
    intro before place unsigned grounded
    obtain ⟨op, right⟩ := link
    obtain ⟨d, hd⟩ := ih (fun op member => unsigned op (by simp_all)) grounded.2
    rcases grounded.1 with operand | ⟨sign, _⟩
    · obtain ⟨x, rfl⟩ := Option.isSome_iff_exists.mp operand
      refine ⟨⟨x, (op, d.head) :: d.tail⟩, ?_⟩
      injection hd with head tail
      rw [head, tail]
      rfl
    · rw [unsigned op (by simp)] at sign
      cases sign

theorem collectValues_operands {whole : List Token} {store : Store}
    {links : List (Operator × Operand)} :
    ∀ x : Operand, (∀ op ∈ links.map Prod.fst, op.isSeparator = true) →
      collectValues whole store (Chain.map some ⟨x, links⟩).tokens =
        (Chain.mk x links).operands.mapM fun y => y.token.resolved store := by
  induction links with
  | nil =>
    intro x _
    show collectValues whole store [x.token] = _
    rw [collectValues_cons _ _ x.isOperator_token, collectSeparator, Chain.operands, List.map_nil,
      List.mapM_cons, List.mapM_nil]
    rfl
  | cons link rest ih =>
    intro x separators
    obtain ⟨op, y⟩ := link
    have separates : op = .separator := op.isSeparator_iff_eq.mp (separators op (by simp))
    have later := ih y fun op member => separators op (by simp_all)
    show collectValues whole store
      (x.token :: .operator op :: (Chain.map some ⟨y, rest⟩).tokens) = _
    rw [collectValues_cons _ _ x.isOperator_token, collectSeparator,
      if_pos (by rw [separates]; rfl), later]
    simp [Chain.operands]

/-- The values of operands with separators between them are what the operands hold. -/
theorem Chain.collect_operands {d : Chain Operand} {store : Store}
    (separators : ∀ op ∈ d.operators, op.isSeparator = true) :
    collect (d.map some).tokens store = d.operands.mapM fun x => x.token.resolved store := by
  have odd (links : List (Operator × Operand)) (x : Operand) :
      (Chain.map some ⟨x, links⟩).tokens.length % 2 = 1 := by
    induction links generalizing x with
    | nil => rfl
    | cons link rest ih =>
      have := ih link.2
      simp only [Chain.tokens, Chain.map, List.map_cons, placeTokens_some, linkTokens,
        List.length_append, List.length_cons, List.length_nil] at this ⊢
      omega
  rw [collect, if_neg, collectValues_operands d.head separators]
  intro even
  have : (d.map some).tokens.length % 2 = 1 := odd d.tail d.head
  omega

theorem mapM_fault {store : Store} {operands : List Operand} {fault : Fault}
    (failed : (operands.mapM fun x => x.token.resolved store) = .error fault) :
    fault.IsAccess := by
  induction operands with
  | nil => cases failed
  | cons x rest ih =>
    rw [List.mapM_cons] at failed
    rcases except_bind_error failed with failed | ⟨v, _, failed⟩
    · exact resolved_fault failed
    rcases except_bind_error failed with failed | ⟨values, _, failed⟩
    · exact ih failed
    · cases failed

/-- A grounded statement is evaluated without a complaint about its shape. -/
theorem Chain.evaluate_fault {c : Chain (Option Operand)} (grounded : c.Grounded none)
    {store after : Store} {fault : Fault}
    (failed : (Statement.mk c.tokens c.operators).evaluate store = (.error fault, after)) :
    fault.IsAccess := by
  obtain ⟨kept, fails⟩ :=
    grounded_passes descending_priorities store c.awaits_priorities grounded
  rw [evaluate_eq_passes] at failed
  rcases Action.bind_error failed with failed | ⟨d, between, done, failed⟩
  · exact fails fault after failed
  · have separators : ∀ op ∈ d.operators, op.isSeparator = true := by
      intro op member
      rw [operators_passes_priorities done] at member
      exact (List.mem_filter.mp member).2
    have unsigned : ∀ op ∈ d.operators, op.isSign = false := by
      intro op member
      rw [op.isSeparator_iff_eq.mp (separators op member)]
      rfl
    obtain ⟨e, he⟩ := GroundedFrom.exists_operands unsigned (kept d between done)
    injection failed with failed _
    rw [show d = e.map some from he, collect_operands (by
      intro op member
      exact separators op (by rw [show d = e.map some from he]; simpa using member))] at failed
    exact mapM_fault failed

/-! ## Rows with neighbours are refused -/

theorem splitAtOperator_some {op : Operator} {tokens : List Token} :
    ∀ {passed before rest : List Token}, splitAtOperator op passed tokens = some (before, rest) →
      ∃ front, before = front.reverse ++ passed ∧ tokens = front ++ .operator op :: rest := by
  induction tokens with
  | nil =>
    intro passed before rest found
    cases found
  | cons token tokens ih =>
    intro passed before rest found
    rw [splitAtOperator] at found
    by_cases here : token.isThe op = true
    · rw [if_pos here] at found
      cases found
      cases token with
      | value v => cases here
      | label l => cases here
      | operator other =>
        have same : other = op := by simpa [Token.isThe] using here
        exact ⟨[], rfl, by rw [same]; rfl⟩
    · rw [if_neg here] at found
      obtain ⟨front, hbefore, htokens⟩ := ih found
      exact ⟨token :: front, by simp [hbefore], by simp [htokens]⟩

theorem settle_isOperator {outcome : Outcome} {result : Token} {store after : Store}
    (done : outcome.settle store = (.ok result, after)) : result.isOperator = false := by
  cases outcome with
  | value v =>
    cases done
    rfl
  | mutation m =>
    obtain ⟨_, _, _, done⟩ := Action.bind_ok done
    cases done
    rfl

theorem evaluate_isOperator {op : Operator} {left right : Token} {store : Store}
    {outcome : Outcome} (done : op.evaluate left right store = .ok outcome) :
    right.isOperator = false := by
  cases right with
  | value v => rfl
  | label l => rfl
  | operator other =>
    unfold Operator.evaluate at done
    cases left <;> cases done

theorem leftOperand?_some {before earlier : List Token} {left : Token}
    (taken : leftOperand? before = some (left, earlier)) :
    left.isOperator = false ∧ before = left :: earlier := by
  cases before with
  | nil => cases taken
  | cons first others =>
    rw [leftOperand?] at taken
    by_cases operator : first.isOperator = true
    · rw [if_pos operator] at taken
      cases taken
    · rw [if_neg operator] at taken
      cases taken
      exact ⟨by simpa using operator, rfl⟩

/-- What the first occurrence of an operator leaves behind, when it can be applied: one operand in
place of two or, for a sign, of one. -/
theorem applyFirst_ok {op : Operator} {tokens reduced : List Token} {store after : Store}
    (done : applyFirst op tokens store = (.ok reduced, after)) :
    ∃ front right result rest, right.isOperator = false ∧ result.isOperator = false ∧
      reduced = front ++ result :: rest ∧
      (tokens = front ++ .operator op :: right :: rest ∨
        ∃ left, left.isOperator = false ∧
          tokens = front ++ left :: .operator op :: right :: rest) := by
  cases found : splitAtOperator op [] tokens with
  | none =>
    simp only [applyFirst, found] at done
    cases done
  | some pair =>
    obtain ⟨before, later⟩ := pair
    obtain ⟨front, hbefore, htokens⟩ := splitAtOperator_some found
    rw [List.append_nil] at hbefore
    cases later with
    | nil =>
      simp only [applyFirst, found] at done
      cases done
    | cons right rest =>
      simp only [applyFirst, found] at done
      cases taken : leftOperand? before with
      | some pair =>
        obtain ⟨left, earlier⟩ := pair
        obtain ⟨operand, hfront⟩ := leftOperand?_some taken
        simp only [taken] at done
        obtain ⟨outcome, between, evaluated, done⟩ := Action.bind_ok done
        obtain ⟨result, last, settled, done⟩ := Action.bind_ok done
        cases done
        injection evaluated with evaluated _
        refine ⟨earlier.reverse, right, result, rest, evaluate_isOperator evaluated,
          settle_isOperator settled, List.reverseAux_eq, .inr ⟨left, operand, ?_⟩⟩
        rw [htokens, ← List.reverse_reverse front, ← hbefore, hfront]
        simp
      | none =>
        simp only [taken] at done
        by_cases sign : op.isSign = true
        · rw [if_pos sign] at done
          obtain ⟨outcome, between, evaluated, done⟩ := Action.bind_ok done
          obtain ⟨result, last, settled, done⟩ := Action.bind_ok done
          cases done
          injection evaluated with evaluated _
          refine ⟨front, right, result, rest, evaluate_isOperator evaluated,
            settle_isOperator settled, ?_, .inl htokens⟩
          rw [hbefore, List.reverseAux_eq, List.reverse_reverse]
        · rw [if_neg sign] at done
          cases done

/-- A row is free of neighbours if an application has left one that is. -/
theorem apart_of_applyFirst {op : Operator} {tokens reduced : List Token} {store after : Store}
    (done : applyFirst op tokens store = (.ok reduced, after)) (apart : Apart reduced) :
    Apart tokens := by
  obtain ⟨front, right, result, rest, operand, value, hreduced, htokens⟩ := applyFirst_ok done
  rw [hreduced, apart_append_cons] at apart
  obtain ⟨before, behind⟩ := apart
  have tail : Apart (.operator op :: right :: rest) :=
    ⟨.inl rfl, behind.replaceHead (operand.trans value.symm)⟩
  rcases htokens with htokens | ⟨left, leftOperand, htokens⟩
  · rw [htokens]
    exact apart_append_cons.mpr ⟨before.endsWithOperator op, tail⟩
  · rw [htokens]
    exact apart_append_cons.mpr
      ⟨before.replaceLast (leftOperand.trans value.symm), .inr rfl, tail⟩

theorem apart_of_applyAll {operators : List Operator} :
    ∀ {tokens reduced : List Token} {store after : Store},
      applyAll operators tokens store = (.ok reduced, after) → Apart reduced → Apart tokens := by
  induction operators with
  | nil =>
    intro tokens reduced store after done apart
    cases done
    exact apart
  | cons op operators ih =>
    intro tokens reduced store after done apart
    obtain ⟨next, between, first, rest⟩ := Action.bind_ok done
    exact apart_of_applyFirst first (ih rest apart)

/-- Values are read off rows without neighbours. -/
theorem apart_of_collectValues {whole : List Token} {store : Store} (tokens : List Token) :
    (∀ values, collectValues whole store tokens = .ok values → Apart tokens) ∧
    (∀ values, collectSeparator whole store tokens = .ok values →
      Apart tokens ∧ ∀ token ∈ tokens.head?, token.isOperator = true) := by
  induction tokens with
  | nil => exact ⟨fun _ _ => trivial, fun _ _ => ⟨trivial, by simp⟩⟩
  | cons token rest ih =>
    constructor
    · intro values read
      have operand (x : Operand) (same : x.token = token) : Apart (token :: rest) := by
        rw [← same, collectValues_cons _ _ x.isOperator_token] at read
        cases resolved : x.token.resolved store with
        | error fault =>
          rw [resolved] at read
          cases read
        | ok v =>
          rw [resolved] at read
          cases later : collectSeparator whole store rest with
          | error fault =>
            rw [later] at read
            cases read
          | ok others =>
            obtain ⟨apart, operator⟩ := ih.2 others later
            cases rest with
            | nil => trivial
            | cons second rest => exact ⟨.inr (operator second rfl), apart⟩
      cases token with
      | value v => exact operand (.value v) rfl
      | label l => exact operand (.label l) rfl
      | operator op =>
        rw [collectValues] at read
        cases read
    · intro values read
      rw [collectSeparator] at read
      by_cases separates : token.isSeparator = true
      · rw [if_pos separates] at read
        have operator : token.isOperator = true := by
          cases token with
          | value v => cases separates
          | label l => cases separates
          | operator op => rfl
        refine ⟨?_, by simpa using operator⟩
        have apart := ih.1 values read
        cases rest with
        | nil => trivial
        | cons second rest => exact ⟨.inl operator, apart⟩
      · rw [if_neg separates] at read
        cases read

/-- A statement that has values has no two operands side by side. -/
theorem apart_of_evaluate {st : Statement} {store after : Store} {values : List Value}
    (done : st.evaluate store = (.ok values, after)) : Apart st.tokens := by
  obtain ⟨reduced, between, applied, read⟩ := Action.bind_ok done
  injection read with read _
  refine apart_of_applyAll applied ?_
  rw [collect] at read
  split at read
  · cases read
  · exact (apart_of_collectValues reduced).1 values read

/-! ## Acceptance -/

theorem countP_isSeparator (tokens : List Token) :
    tokens.countP Token.isSeparator =
      ((tokens.filterMap Token.operator?).filter Operator.isSeparator).length := by
  induction tokens with
  | nil => rfl
  | cons token rest ih =>
    rw [List.countP_cons, List.filterMap_cons, ih]
    cases token with
    | value v => rfl
    | label l => rfl
    | operator op => cases op <;> rfl

/-- Passes that left nothing found nothing. -/
theorem tokens_of_passFrom {level : Int} {links : List (Operator × Option Operand)} :
    ∀ {place : Option Operand} {c : Chain (Option Operand)} {store after : Store},
      passFrom level place links store = (.ok c, after) → c.tokens = [] →
      (Chain.mk place links).tokens = [] := by
  induction links with
  | nil =>
    intro place c store after done empty
    cases done
    exact empty
  | cons link rest ih =>
    intro place c store after done empty
    obtain ⟨op, right⟩ := link
    rw [passFrom] at done
    by_cases mine : op.priority = level
    · rw [if_pos mine] at done
      obtain ⟨result, between, _, done⟩ := Action.bind_ok done
      have := ih done empty
      simp [Chain.tokens] at this
    · rw [if_neg mine] at done
      obtain ⟨d, between, _, done⟩ := Action.bind_ok done
      cases done
      simp [Chain.tokens, linkTokens] at empty

theorem Chain.tokens_of_passes {levels : List Int} :
    ∀ {c d : Chain (Option Operand)} {store after : Store},
      c.passes levels store = (.ok d, after) → d.tokens = [] → c.tokens = [] := by
  induction levels with
  | nil =>
    intro c d store after done empty
    cases done
    exact empty
  | cons level levels ih =>
    intro c d store after done empty
    obtain ⟨e, between, first, rest⟩ := Action.bind_ok done
    exact tokens_of_passFrom first (ih rest empty)

/-- A row that is evaluated is empty or grammatical, and gives one value for each of its clauses. -/
theorem grammatical_of_evaluate {st : Statement} (mirrored : st.Mirrored) {store after : Store}
    {values : List Value} (done : st.evaluate store = (.ok values, after)) :
    (st.tokens = [] ∧ values.length = 0) ∨
      (Grammatical st.tokens ∧ values.length = st.tokens.countP Token.isSeparator + 1) := by
  obtain ⟨c, hc⟩ := (apart_of_evaluate done).exists_chain
  obtain ⟨tokens, operators⟩ := st
  simp only [Statement.Mirrored] at mirrored hc
  subst hc
  rw [mirrored, c.filterMap_tokens, c.evaluate_eq_passes] at done
  obtain ⟨d, between, passed, read⟩ := Action.bind_ok done
  injection read with read _
  have kept := Chain.operators_passes_priorities passed
  rcases Chain.collect_ok read with ⟨empty, none⟩ | ⟨grounded, length⟩
  · exact .inl ⟨Chain.tokens_of_passes passed empty, by rw [none]; rfl⟩
  · refine .inr ⟨?_, ?_⟩
    · exact (Chain.grounded_of_passes descending_priorities c.awaits_priorities passed
        grounded).grammatical
    · rw [length, countP_isSeparator, c.filterMap_tokens, ← kept, Chain.operators, List.length_map]

/-- The evaluation of a row that is empty or grammatical fails only for want of a name, a field or a
number. -/
theorem access_of_grammatical {st : Statement} (mirrored : st.Mirrored)
    (shape : st.tokens = [] ∨ Grammatical st.tokens) {store after : Store} {fault : Fault}
    (failed : st.evaluate store = (.error fault, after)) : fault.IsAccess := by
  obtain ⟨tokens, operators⟩ := st
  simp only [Statement.Mirrored] at mirrored shape
  rcases shape with empty | grammatical
  · subst empty
    subst mirrored
    cases failed
  · obtain ⟨c, hc, grounded⟩ := grammatical.exists_chain
    subst hc
    rw [mirrored, c.filterMap_tokens] at failed
    exact Chain.evaluate_fault grounded failed

/-- Evaluation accepts exactly the grammar.  A statement with values is empty or a row of the
grammar, and has no value in the first case and one more than separators in the second.  An empty
statement, or one of the grammar, is never refused for its shape: if it fails, then for want of a
name, a field, a value of the right type, or a name to write to. -/
theorem evaluate_accepts_grammar (st : Statement) (store : Store) (mirrored : st.Mirrored) :
    (∀ values after, st.evaluate store = (.ok values, after) →
      (st.tokens = [] ∧ values.length = 0) ∨
      (Grammatical st.tokens ∧ values.length = st.tokens.countP Token.isSeparator + 1)) ∧
    (st.tokens = [] ∨ Grammatical st.tokens →
      ∀ fault after, st.evaluate store = (.error fault, after) →
        fault.code.number ∉ [200, 210, 220, 230, 240] ∧
        fault.code.number ∈ [310, 350, 370, 380, 399]) := by
  constructor
  · intro values after done
    exact grammatical_of_evaluate mirrored done
  · intro shape fault after failed
    have access := access_of_grammatical mirrored shape failed
    refine ⟨?_, access⟩
    unfold Fault.IsAccess at access
    simp only [List.mem_cons, List.not_mem_nil, or_false] at access ⊢
    omega

/-- The row `true == false, "text"` is evaluated, and so it is grammatical. -/
theorem evaluate_accepts_grammar_two_clauses :
    let row : List Token :=
      [.value (.bool true), .operator .equal, .value (.bool false), .operator .separator,
        .value (.string "text")]
    let st := Statement.ofTokens row
    st.Mirrored ∧ Grammatical row ∧
      (st.evaluate Store.empty).1.toOption = some [.bool false, .string "text"] := by
  intro row st
  have accepts := (evaluate_accepts_grammar st Store.empty rfl).1
  rcases accepts [.bool false, .string "text"] Store.empty rfl with ⟨empty, _⟩ | ⟨grammatical, _⟩
  · cases empty
  · exact ⟨rfl, grammatical, rfl⟩

end Scriptlet
