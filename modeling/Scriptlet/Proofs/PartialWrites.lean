import Mathlib.Tactic.ByContra
import Scriptlet.Proofs.Outcomes
import Scriptlet.Proofs.Reference
set_option autoImplicit false

/-!
# What an evaluation leaves in the store

Declarations are the last operators to be applied, from left to right, and nothing else in an
evaluation writes.  So whatever an evaluation ends with, the store it leaves is the store at the
start with the first few declarations carried out: none of them while an operator of higher priority
fails, those before it when a declaration fails, and all of them once only the values are left to be
read.
-/

namespace Scriptlet

/-! ## Writes in a row -/

/-- Carries out mutations one after the other. -/
def commitAll : List Mutation → Action Unit
  | [] => return ()
  | m :: later => do
    let _ ← m.commit
    commitAll later

theorem commitAll_cons {m : Mutation} {v : Value} {store between : Store}
    (written : m.commit store = (.ok v, between)) (later : List Mutation) :
    commitAll (m :: later) store = commitAll later between := by
  rw [commitAll, Action.bind_of_ok written]

theorem declare_of_error {id : ScopeId} {name : String} {value : Value} {store after : Store}
    {fault : Fault} (failed : declare id name value store = (.error fault, after)) :
    after = store := by
  unfold declare at failed
  split at failed
  · cases failed
  · split at failed <;> cases failed
    rfl

section

variable {id : ScopeId} {name : String} {value present result : Value} {op : Operator}
  {store after : Store} {fault : Fault}

theorem changeBy_of_none (missing : store.lookup id name = none) :
    changeBy id name value op store = (.error (.neverDeclared name), store) :=
  Action.bind_of_error (by rw [Action.ask_apply, missing])

theorem changeBy_of_fault (found : store.lookup id name = some present)
    (failed : op.apply present value = .error fault) :
    changeBy id name value op store = (.error fault, store) := by
  refine (Action.bind_of_ok (by rw [Action.ask_apply, found])).trans ?_
  exact Action.bind_of_error (by rw [Action.ofExcept_apply, failed])

/-- With a value to change and a result, all that is left to do is to declare the result. -/
theorem changeBy_of_result (found : store.lookup id name = some present)
    (applied : op.apply present value = .ok result) :
    changeBy id name value op store = (declare id name result >>= fun _ => pure result) store := by
  refine (Action.bind_of_ok (by rw [Action.ask_apply, found])).trans ?_
  exact Action.bind_of_ok (by rw [Action.ofExcept_apply, applied])

/-- A declaration that is followed by a value writes nothing, or it is carried out and gives the
value. -/
theorem declare_then_cases (id : ScopeId) (name : String) (value : Value) (store : Store) :
    (∃ fault, (declare id name value >>= fun _ => pure value) store = (.error fault, store)) ∨
      ∃ after, declare id name value store = (.ok (), after) ∧
        (declare id name value >>= fun _ => pure value) store = (.ok value, after) := by
  cases declared : declare id name value store with
  | mk outcome after =>
    cases outcome with
    | error fault =>
      rw [Action.bind_of_error declared, declare_of_error declared]
      exact .inl ⟨fault, rfl⟩
    | ok _ => exact .inr ⟨after, rfl, Action.bind_of_ok declared⟩

/-- A change fails and writes nothing, or its result is declared. -/
theorem changeBy_cases (id : ScopeId) (name : String) (value : Value) (op : Operator)
    (store : Store) :
    (∃ fault, changeBy id name value op store = (.error fault, store)) ∨
      ∃ present result after, store.lookup id name = some present ∧
        op.apply present value = .ok result ∧ declare id name result store = (.ok (), after) ∧
        changeBy id name value op store = (.ok result, after) := by
  cases found : store.lookup id name with
  | none => exact .inl ⟨_, changeBy_of_none found⟩
  | some present =>
    cases applied : op.apply present value with
    | error fault => exact .inl ⟨fault, changeBy_of_fault found applied⟩
    | ok result =>
      rw [changeBy_of_result found applied]
      rcases declare_then_cases id name result store with refused | ⟨after, declared, done⟩
      · exact .inl refused
      · exact .inr ⟨present, result, after, rfl, applied, declared, done⟩

/-- A mutation fails and writes nothing, or it comes down to declaring one value. -/
theorem Mutation.commit_cases (m : Mutation) (store : Store) :
    (∃ fault, m.commit store = (.error fault, store)) ∨
      ∃ v after, declare m.target.scope m.target.name v store = (.ok (), after) ∧
        m.commit store = (.ok v, after) ∧ (m.operator.base? = none → v = m.value) := by
  cases compound : m.operator.base? with
  | none =>
    simp only [Mutation.commit, compound]
    rcases declare_then_cases m.target.scope m.target.name m.value store with
      refused | ⟨after, declared, done⟩
    · exact .inl refused
    · exact .inr ⟨m.value, after, declared, done, fun _ => rfl⟩
  | some base =>
    simp only [Mutation.commit, compound]
    rcases changeBy_cases m.target.scope m.target.name m.value base store with
      refused | ⟨_, v, after, _, _, declared, done⟩
    · exact .inl refused
    · exact .inr ⟨v, after, declared, done, fun plain => by cases plain⟩

/-- A mutation that cannot be carried out writes nothing. -/
theorem Mutation.commit_of_error {m : Mutation} (failed : m.commit store = (.error fault, after)) :
    after = store := by
  rcases m.commit_cases store with ⟨_, refused⟩ | ⟨_, _, _, done, _⟩
  · cases failed.symm.trans refused
    rfl
  · cases failed.symm.trans done

theorem Mutation.commit_ok {m : Mutation} (done : m.commit store = (.ok value, after)) :
    declare m.target.scope m.target.name value store = (.ok (), after) ∧
      (m.operator.base? = none → value = m.value) := by
  rcases m.commit_cases store with ⟨_, refused⟩ | ⟨_, _, declared, committed, plain⟩
  · cases done.symm.trans refused
  · cases done.symm.trans committed
    exact ⟨declared, plain⟩

end

/-- The outcome of a declaration that is carried out is the label it has written to. -/
theorem settle_of_ok {m : Mutation} {v : Value} {store between : Store}
    (written : m.commit store = (.ok v, between)) {α : Type} (f : Token → α) :
    (f <$> (Outcome.mutation m).settle) store = (.ok (f (.label m.target)), between) := by
  rw [Outcome.settle, map_bind, Action.bind_of_ok written]
  rfl

theorem settle_of_error {m : Mutation} {fault : Fault} {store after : Store}
    (failed : m.commit store = (.error fault, after)) {α : Type} (f : Token → α) :
    (f <$> (Outcome.mutation m).settle) store = (.error fault, after) := by
  rw [Outcome.settle, map_bind, Action.bind_of_error failed]

/-! ## Declarations in a row -/

/-- The declarations among the operators of a row, from left to right. -/
def declarationsOf (tokens : List Token) : List Operator :=
  (tokens.filterMap Token.operator?).filter Operator.isDeclaration

@[simp] theorem declarationsOf_append (front rest : List Token) :
    declarationsOf (front ++ rest) = declarationsOf front ++ declarationsOf rest := by
  simp [declarationsOf]

/-- A token that is no declaration does not count. -/
theorem declarationsOf_cons_of_none {token : Token} (other : declarationsOf [token] = [])
    (rest : List Token) : declarationsOf (token :: rest) = declarationsOf rest := by
  rw [← List.singleton_append, declarationsOf_append, other, List.nil_append]

theorem declarationsOf_operand {token : Token} (operand : token.isOperator = false) :
    declarationsOf [token] = [] := by
  rw [declarationsOf, List.filterMap_cons_none (Token.operator?_of_isOperator operand)]
  rfl

theorem declarationsOf_declaration {op : Operator} (declares : op.isDeclaration = true)
    (rest : List Token) : declarationsOf (.operator op :: rest) = op :: declarationsOf rest := by
  rw [declarationsOf, Token.filterMap_operator?_cons]
  exact List.filter_cons_of_pos declares

theorem declarationsOf_computing {op : Operator} (computes : op.isDeclaration = false) :
    declarationsOf [.operator op] = [] := by
  exact List.filter_cons_of_neg (by simp [computes])

/-- Declarations carried out one after the other.  Each is the leftmost one of its row; it asks for
its mutation in the store it finds, and its label stands for it in the row that goes on. -/
inductive Declared : List Token → Store → List Mutation → List Token → Store → Prop where
  | none (row : List Token) (store : Store) : Declared row store [] row store
  | next {front rest last : List Token} {left right : Token} {op : Operator} {m : Mutation}
      {v : Value} {store between after : Store} {later : List Mutation}
      (leftmost : declarationsOf front = [])
      (asked : op.evaluate left right store = .ok (.mutation m))
      (written : m.commit store = (.ok v, between))
      (others : Declared (front ++ .label m.target :: rest) between later last after) :
      Declared (front ++ left :: .operator op :: right :: rest) store (m :: later) last after

/-! ## One operator -/

/-- An operator with a value leaves no mutation to carry out. -/
theorem evaluate_computing {op : Operator} (computes : op.isDeclaration = false)
    {left right : Token} {store : Store} {outcome : Outcome}
    (done : op.evaluate left right store = .ok outcome) : ∃ v, outcome = .value v := by
  unfold Operator.evaluate at done
  split at done
  · cases done
  · cases done
  · rw [if_neg (by simp [computes])] at done
    obtain ⟨a, _, done⟩ := except_bind_ok done
    obtain ⟨b, _, done⟩ := except_bind_ok done
    obtain ⟨v, _, done⟩ := except_bind_ok done
    cases done
    exact ⟨v, rfl⟩

/-- A declaration asks for a write to the label on its left. -/
theorem evaluate_declaring {op : Operator} (declares : op.isDeclaration = true)
    {left right : Token} {store : Store} {outcome : Outcome}
    (done : op.evaluate left right store = .ok outcome) :
    ∃ target v, left = .label target ∧ right.operator? = none ∧
      outcome = .mutation ⟨target, op, v⟩ := by
  unfold Operator.evaluate at done
  split at done
  · cases done
  · cases done
  · rename_i plain
    rw [if_pos declares] at done
    split at done
    · obtain ⟨v, _, done⟩ := except_bind_ok done
      cases done
      exact ⟨_, v, rfl, plain, rfl⟩
    · cases done

/-- The leftmost place of an operator in a row, if it has one. -/
theorem exists_leftmost (op : Operator) (tokens : List Token) :
    (∀ token ∈ tokens, token.isThe op = false) ∨
    ∃ front rest, tokens = front ++ .operator op :: rest ∧
      ∀ token ∈ front, token.isThe op = false := by
  induction tokens with
  | nil => exact .inl (List.forall_mem_nil _)
  | cons token tokens ih =>
    cases here : token.isThe op with
    | true =>
      refine .inr ⟨[], tokens, ?_, List.forall_mem_nil _⟩
      cases token with
      | value v => cases here
      | label l => cases here
      | operator other => rw [eq_of_beq here]; rfl
    | false =>
      rcases ih with absent | ⟨front, rest, rfl, absent⟩
      · exact .inl (List.forall_mem_cons.mpr ⟨here, absent⟩)
      · exact .inr ⟨token :: front, rest, rfl, List.forall_mem_cons.mpr ⟨here, absent⟩⟩

theorem splitAtOperator_absent {op : Operator} {tokens : List Token}
    (absent : ∀ token ∈ tokens, token.isThe op = false) (passed : List Token) :
    splitAtOperator op passed tokens = none := by
  induction tokens generalizing passed with
  | nil => rfl
  | cons token tokens ih =>
    obtain ⟨here, others⟩ := List.forall_mem_cons.mp absent
    rw [splitAtOperator, if_neg (by simp [here]), ih others]

/-- An operator that cannot be evaluated writes nothing; otherwise its outcome is settled. -/
theorem operate_cases (op : Operator) (left right : Token) (earlier later : List Token)
    (store : Store) :
    let operate : Action (List Token) := do
      let outcome ← Action.ask (op.evaluate left right)
      let result ← outcome.settle
      return earlier.reverseAux (result :: later)
    (∃ fault, operate store = (.error fault, store)) ∨
    ∃ outcome, op.evaluate left right store = .ok outcome ∧
      operate store = ((earlier.reverse ++ · :: later) <$> outcome.settle) store := by
  intro operate
  cases evaluated : op.evaluate left right store with
  | error fault =>
    exact .inl ⟨fault, Action.bind_of_error (by rw [Action.ask_apply, evaluated])⟩
  | ok outcome =>
    refine .inr ⟨outcome, rfl, ?_⟩
    have asked : Action.ask (op.evaluate left right) store = (.ok outcome, store) := by
      rw [Action.ask_apply, evaluated]
    rw [map_eq_pure_bind]
    simp only [operate, Action.bind_of_ok asked, List.reverseAux_eq]

/-- An operator at its leftmost place fails without writing, or its outcome takes the place of its
operands: of both or, for a sign, of the right one. -/
theorem applyFirst_leftmost {op : Operator} {front : List Token}
    (absent : ∀ token ∈ front, token.isThe op = false) (rest : List Token) (store : Store) :
    (∃ fault, applyFirst op (front ++ .operator op :: rest) store = (.error fault, store)) ∨
    ∃ kept left right later outcome, rest = right :: later ∧
      op.evaluate left right store = .ok outcome ∧
      (front = kept ++ [left] ∧ left.isOperator = false ∨ front = kept ∧ op.isSign = true) ∧
      applyFirst op (front ++ .operator op :: rest) store =
        ((kept ++ · :: later) <$> outcome.settle) store := by
  have split : splitAtOperator op [] (front ++ .operator op :: rest) =
      some (front.reverse, rest) := by
    rw [splitAtOperator_append absent, List.append_nil]
  unfold applyFirst
  rw [split]
  cases rest with
  | nil => exact .inl ⟨_, rfl⟩
  | cons right later =>
    simp only
    cases taken : leftOperand? front.reverse with
    | some pair =>
      obtain ⟨left, earlier⟩ := pair
      obtain ⟨operand, reversed⟩ := leftOperand?_some taken
      rcases operate_cases op left right earlier later store with
        failed | ⟨outcome, evaluated, settled⟩
      · exact .inl failed
      · refine .inr ⟨earlier.reverse, left, right, later, outcome, rfl, evaluated,
          .inl ⟨?_, operand⟩, settled⟩
        rw [← List.reverse_reverse front, reversed, List.reverse_cons]
    | none =>
      by_cases sign : op.isSign = true
      · simp only [if_pos sign]
        rcases operate_cases op (.value (.number 0.0)) right front.reverse later store with
          failed | ⟨outcome, evaluated, settled⟩
        · exact .inl failed
        · rw [List.reverse_reverse] at settled
          exact .inr ⟨front, _, right, later, outcome, rfl, evaluated, .inr ⟨rfl, sign⟩, settled⟩
      · simp only [if_neg sign]
        exact .inl ⟨_, rfl⟩

/-- An operator with a value writes nothing, and takes no declaration out of the row. -/
theorem applyFirst_computing {op : Operator} (computes : op.isDeclaration = false)
    (tokens : List Token) (store : Store) :
    (∃ fault, applyFirst op tokens store = (.error fault, store)) ∨
    ∃ reduced, applyFirst op tokens store = (.ok reduced, store) ∧
      declarationsOf reduced = declarationsOf tokens := by
  rcases exists_leftmost op tokens with absent | ⟨front, rest, rfl, absent⟩
  · refine .inl ⟨.operatorMissing op, ?_⟩
    rw [applyFirst, splitAtOperator_absent absent]
    rfl
  rcases applyFirst_leftmost absent rest store with
    failed | ⟨kept, left, right, later, outcome, rfl, evaluated, operands, settled⟩
  · exact .inl failed
  obtain ⟨v, rfl⟩ := evaluate_computing computes evaluated
  refine .inr ⟨kept ++ .value v :: later, settled, ?_⟩
  have own := declarationsOf_cons_of_none (declarationsOf_computing computes) (right :: later)
  have other := declarationsOf_cons_of_none
    (declarationsOf_operand (evaluate_isOperator evaluated)) later
  have value : declarationsOf (.value v :: later) = declarationsOf later := rfl
  rcases operands with ⟨rfl, operand⟩ | ⟨rfl, _⟩
  · simp only [declarationsOf_append, own, other, value, declarationsOf_operand operand,
      List.append_nil]
  · simp only [declarationsOf_append, own, other, value]

/-- The leftmost declaration of a row stands behind tokens that are none. -/
theorem exists_leftmost_declaration {op : Operator} {tokens : List Token} {later : List Operator}
    (leftmost : declarationsOf tokens = op :: later) :
    ∃ front rest, tokens = front ++ .operator op :: rest ∧ declarationsOf front = [] ∧
      declarationsOf rest = later ∧ op.isDeclaration = true := by
  induction tokens with
  | nil => cases leftmost
  | cons token tokens ih =>
    have skip (other : declarationsOf [token] = []) : ∃ front rest,
        token :: tokens = front ++ .operator op :: rest ∧ declarationsOf front = [] ∧
          declarationsOf rest = later ∧ op.isDeclaration = true := by
      rw [declarationsOf_cons_of_none other] at leftmost
      obtain ⟨front, rest, rfl, none, others, declares⟩ := ih leftmost
      refine ⟨token :: front, rest, rfl, ?_, others, declares⟩
      rw [declarationsOf_cons_of_none other, none]
    cases token with
    | value v => exact skip rfl
    | label l => exact skip rfl
    | operator first =>
      cases declares : first.isDeclaration with
      | false => exact skip (declarationsOf_computing declares)
      | true =>
        rw [declarationsOf_declaration declares] at leftmost
        obtain ⟨rfl, others⟩ := List.cons.inj leftmost
        exact ⟨[], tokens, rfl, rfl, others, declares⟩

/-- A row without declarations does not hold this one. -/
theorem absent_of_declarationsOf {op : Operator} (declares : op.isDeclaration = true)
    {front : List Token} (none : declarationsOf front = []) :
    ∀ token ∈ front, token.isThe op = false := by
  intro token member
  cases token with
  | value v => rfl
  | label l => rfl
  | operator other =>
    refine beq_false_of_ne ?_
    rintro rfl
    have listed : other ∈ front.filterMap Token.operator? :=
      List.mem_filterMap.mpr ⟨_, member, rfl⟩
    exact List.filter_eq_nil_iff.mp none other listed declares

/-- The leftmost declaration of a row is carried out, or nothing is written. -/
theorem applyFirst_declaring {op : Operator} {tokens : List Token} {later : List Operator}
    (leftmost : declarationsOf tokens = op :: later) (store : Store) :
    (∃ fault, applyFirst op tokens store = (.error fault, store)) ∨
    ∃ front left right rest m v between,
      tokens = front ++ left :: .operator op :: right :: rest ∧ declarationsOf front = [] ∧
      op.evaluate left right store = .ok (.mutation m) ∧ m.operator = op ∧
      m.commit store = (.ok v, between) ∧
      applyFirst op tokens store = (.ok (front ++ .label m.target :: rest), between) ∧
      declarationsOf (front ++ .label m.target :: rest) = later := by
  obtain ⟨front, rest, rfl, none, others, declares⟩ := exists_leftmost_declaration leftmost
  rcases applyFirst_leftmost (absent_of_declarationsOf declares none) rest store with
    failed | ⟨kept, left, right, rest, outcome, rfl, evaluated, operands, settled⟩
  · exact .inl failed
  obtain ⟨target, v, rfl, plain, rfl⟩ := evaluate_declaring declares evaluated
  rcases operands with ⟨rfl, _⟩ | ⟨_, sign⟩
  · rw [declarationsOf_append, List.append_eq_nil_iff] at none
    rw [List.append_assoc, List.singleton_append] at settled ⊢
    rw [settled]
    cases committed : Mutation.commit ⟨target, op, v⟩ store with
    | mk result between =>
      have operand := declarationsOf_operand (evaluate_isOperator evaluated)
      have reduced : declarationsOf (kept ++ .label target :: rest) = later := by
        rw [declarationsOf_append, none.1, List.nil_append, ← others,
          declarationsOf_cons_of_none operand]
        rfl
      cases result with
      | error fault =>
        have same := Mutation.commit_of_error committed
        subst same
        exact .inl ⟨fault, settle_of_error committed _⟩
      | ok written =>
        exact .inr ⟨kept, _, right, rest, ⟨target, op, v⟩, written, between, rfl, none.1, evaluated,
          rfl, committed, settle_of_ok committed _, reduced⟩
  · rw [op.isDeclaration_iff] at declares
    rw [op.isSign_iff] at sign
    omega

/-! ## All operators -/

/-- Operators with values write nothing, and leave the declarations of the row. -/
theorem applyAll_computing {order : List Operator}
    (computing : ∀ op ∈ order, op.isDeclaration = false) (tokens : List Token) (store : Store) :
    (∃ fault, applyAll order tokens store = (.error fault, store)) ∨
    ∃ reduced, applyAll order tokens store = (.ok reduced, store) ∧
      declarationsOf reduced = declarationsOf tokens := by
  induction order generalizing tokens with
  | nil => exact .inr ⟨tokens, rfl, rfl⟩
  | cons op order ih =>
    obtain ⟨here, others⟩ := List.forall_mem_cons.mp computing
    rcases applyFirst_computing here tokens store with ⟨fault, failed⟩ | ⟨row, applied, same⟩
    · exact .inl ⟨fault, Action.bind_of_error failed⟩
    · rw [applyAll, Action.bind_of_ok applied, ← same]
      exact ih others row

/-- Operators are to be applied to a row in some order; after those in `done`, which could be
applied, `op` fails. -/
def FailsAt (order : List Operator) (tokens : List Token) (store : Store) (done : List Operator)
    (op : Operator) : Prop :=
  ∃ later row between fault after, order = done ++ op :: later ∧
    applyAll done tokens store = (.ok row, between) ∧
    applyFirst op row between = (.error fault, after)

/-- The declarations of a row are carried out from left to right up to one that fails, which writes
nothing, or all of them. -/
theorem applyAll_declaring (declarations : List Operator) :
    ∀ (tokens : List Token) (store : Store), declarationsOf tokens = declarations →
    ∃ ms row after, Declared tokens store ms row after ∧
      applyAll (ms.map Mutation.operator) tokens store = (.ok row, after) ∧
      (declarations = ms.map Mutation.operator ∨
        ∃ op later fault, declarations = ms.map Mutation.operator ++ op :: later ∧
          applyFirst op row after = (.error fault, after)) := by
  induction declarations with
  | nil =>
    intro tokens store _
    exact ⟨[], tokens, store, .none tokens store, rfl, .inl rfl⟩
  | cons op later ih =>
    intro tokens store leftmost
    rcases applyFirst_declaring leftmost store with ⟨fault, failed⟩ |
      ⟨front, left, right, rest, m, v, between, rfl, none, asked, mine, written, applied, others⟩
    · exact ⟨[], tokens, store, .none tokens store, rfl, .inr ⟨op, later, fault, rfl, failed⟩⟩
    · obtain ⟨ms, row, after, declared, reached, ending⟩ := ih _ between others
      refine ⟨m :: ms, row, after, .next none asked written declared, ?_, ?_⟩
      · rw [List.map_cons, mine, applyAll, Action.bind_of_ok applied, reached]
      · rw [List.map_cons, mine]
        rcases ending with all | ⟨next, rest, fault, split, failed⟩
        · exact .inl (congrArg _ all)
        · exact .inr ⟨next, rest, fault, congrArg _ split, failed⟩

theorem Declared.commitAll {tokens last : List Token} {store after : Store} {ms : List Mutation}
    (declared : Declared tokens store ms last after) : commitAll ms store = (.ok (), after) := by
  induction declared with
  | none row store => rfl
  | next _ _ written _ ih => rw [commitAll_cons written, ih]

/-! ## Where an order of operators fails -/

namespace FailsAt

variable {order done other : List Operator} {tokens : List Token} {store : Store}
  {op op' : Operator}

theorem applyAll (fails : FailsAt order tokens store done op) :
    ∃ fault after, applyAll order tokens store = (.error fault, after) := by
  obtain ⟨later, row, between, fault, after, rfl, applied, failed⟩ := fails
  refine ⟨fault, after, ?_⟩
  rw [applyAll_append, Action.bind_of_ok applied, Scriptlet.applyAll, Action.bind_of_error failed]

/-- An order that ends with an error fails somewhere. -/
theorem exists_of_error {fault : Fault} {after : Store}
    (failed : Scriptlet.applyAll order tokens store = (.error fault, after)) :
    ∃ done op, op ∈ order ∧ FailsAt order tokens store done op := by
  induction order generalizing tokens store with
  | nil => cases failed
  | cons first order ih =>
    rcases Action.bind_error failed with failed | ⟨row, between, applied, failed⟩
    · exact ⟨[], first, List.mem_cons_self, order, tokens, store, fault, after, rfl, rfl, failed⟩
    · obtain ⟨done, op, member, later, last, final, fault, after, rfl, reached, fails⟩ := ih failed
      refine ⟨first :: done, op, List.mem_cons_of_mem _ member, later, last, final, fault, after,
        rfl, ?_, fails⟩
      rw [Scriptlet.applyAll, Action.bind_of_ok applied, reached]

/-- What was applied before one failure goes as far as before any other. -/
theorem length_le (fails : FailsAt order tokens store done op)
    (also : FailsAt order tokens store other op') : other.length ≤ done.length := by
  obtain ⟨later, row, between, fault, after, rfl, applied, failed⟩ := fails
  obtain ⟨later', row', between', fault', after', split, applied', failed'⟩ := also
  by_contra longer
  -- The longer list of applied operators would contain the one that failed.
  have failing : done ++ [op] <+: done ++ op :: later := ⟨later, by simp⟩
  have applying : other <+: done ++ op :: later := ⟨op' :: later', split.symm⟩
  obtain ⟨more, rfl⟩ := List.prefix_of_prefix_length_le failing applying (by
    rw [List.length_append, List.length_singleton]
    omega)
  rw [List.append_assoc, List.singleton_append, applyAll_append, Action.bind_of_ok applied,
    Scriptlet.applyAll, Action.bind_of_error failed] at applied'
  cases applied'

/-- There is one place where an order fails. -/
theorem unique (fails : FailsAt order tokens store done op)
    (also : FailsAt order tokens store other op') : done = other ∧ op = op' := by
  have lengths := Nat.le_antisymm (also.length_le fails) (fails.length_le also)
  obtain ⟨later, _, _, _, _, split, _, _⟩ := fails
  obtain ⟨later', _, _, _, _, split', _, _⟩ := also
  obtain ⟨same, rest⟩ := List.append_inj (split.symm.trans split') lengths
  exact ⟨same, (List.cons.inj rest).1⟩

end FailsAt

/-! ## Statements -/

/-- The operators with values, in the order in which they are applied. -/
def computingOrder (operators : List Operator) : List Operator :=
  computing.flatMap fun priority => operators.filter fun op => op.priority == priority

theorem isDeclaration_computingOrder {operators : List Operator} :
    ∀ op ∈ computingOrder operators, op.isDeclaration = false := by
  intro op member
  obtain ⟨level, above, found⟩ := List.mem_flatMap.mp member
  have same : op.priority = level := eq_of_beq (List.mem_filter.mp found).2
  cases declares : op.isDeclaration with
  | false => rfl
  | true =>
    rw [op.isDeclaration_iff.mp declares] at same
    subst same
    exact absurd above (by decide)

/-- Declarations come last, in the order in which they stand. -/
theorem reductionOrder_eq (operators : List Operator) :
    reductionOrder operators =
      computingOrder operators ++ operators.filter Operator.isDeclaration := by
  have last (op : Operator) : (op.priority == 10) = op.isDeclaration := by
    cases op <;> rfl
  rw [reductionOrder, priorities_eq, List.flatMap_append, List.flatMap_singleton]
  simp only [last]
  rfl

/-- The declarations among the operators of computing ones are none. -/
theorem filter_computingOrder (operators : List Operator) :
    (computingOrder operators).filter Operator.isDeclaration = [] :=
  List.filter_eq_nil_iff.mpr fun op member => by simp [isDeclaration_computingOrder op member]

/-- How far an evaluation comes: an operator with a value fails and nothing was written; or all of
them were applied, and then the declarations were carried out, up to one that fails or all. -/
theorem evaluate_stages {st : Statement} (mirrored : st.Mirrored) (store : Store) :
    let order := reductionOrder st.operators
    (∃ done op fault, FailsAt order st.tokens store done op ∧ op.isDeclaration = false ∧
      st.evaluate store = (.error fault, store)) ∨
    ∃ ms row last after, applyAll (computingOrder st.operators) st.tokens store = (.ok row, store) ∧
      declarationsOf row = declarationsOf st.tokens ∧ Declared row store ms last after ∧
      (ms.map Mutation.operator = declarationsOf st.tokens ∧
          applyAll order st.tokens store = (.ok last, after) ∨
        ∃ op later fault,
          declarationsOf st.tokens = ms.map Mutation.operator ++ op :: later ∧
          FailsAt order st.tokens store
            (computingOrder st.operators ++ ms.map Mutation.operator) op ∧
          st.evaluate store = (.error fault, after)) := by
  intro order
  have order_eq : order = computingOrder st.operators ++ declarationsOf st.tokens := by
    rw [declarationsOf, ← mirrored]
    exact reductionOrder_eq st.operators
  rcases applyAll_computing isDeclaration_computingOrder st.tokens store with
    ⟨fault, failed⟩ | ⟨row, computed, same⟩
  · obtain ⟨done, op, member, later, found⟩ := FailsAt.exists_of_error failed
    obtain ⟨row, between, _, _, split, applied, fails⟩ := found
    refine .inl ⟨done, op, fault,
      ⟨later ++ declarationsOf st.tokens, row, between, _, _, ?_, applied, fails⟩,
      isDeclaration_computingOrder op member, ?_⟩
    · rw [order_eq, split, List.append_assoc, List.cons_append]
    · refine Action.bind_of_error ?_
      show applyAll order st.tokens store = _
      rw [order_eq, applyAll_append, Action.bind_of_error failed]
  · obtain ⟨ms, last, after, declared, reached, ending⟩ := applyAll_declaring _ row store same
    refine .inr ⟨ms, row, last, after, computed, same, declared, ?_⟩
    rcases ending with all | ⟨op, later, fault, split, failed⟩
    · refine .inl ⟨all.symm, ?_⟩
      rw [order_eq, applyAll_append, Action.bind_of_ok computed, all, reached]
    · have applied : applyAll (computingOrder st.operators ++ ms.map Mutation.operator) st.tokens
          store = (.ok last, after) := by
        rw [applyAll_append, Action.bind_of_ok computed, reached]
      have order_split : order =
          (computingOrder st.operators ++ ms.map Mutation.operator) ++ op :: later := by
        rw [order_eq, split, List.append_assoc]
      refine .inr ⟨op, later, fault, split, ⟨later, last, after, fault, after, order_split, applied,
        failed⟩, Action.bind_of_error ?_⟩
      show applyAll order st.tokens store = _
      rw [order_split, applyAll_append, Action.bind_of_ok applied, applyAll,
        Action.bind_of_error failed]

/-- Evaluation leaves a prefix of its declarations.  Whatever it ends with, the store at the end is
the store at the start with mutations carried out that are those of the first declarations from the
left: each was asked for by the leftmost declaration that was left, in the store it found.  No
declaration was carried out if an operator with a value fails, wherever it stands; those before it
if a declaration fails; and all of them if there are values, or only reading the values fails. -/
theorem evaluate_leaves_prefix (st : Statement) (store : Store) (mirrored : st.Mirrored) :
    let order := reductionOrder st.operators
    let after := (st.evaluate store).2
    ∃ ms : List Mutation,
      commitAll ms store = (.ok (), after) ∧
      ms.map Mutation.operator <+: declarationsOf st.tokens ∧
      (ms ≠ [] → ∃ row last,
        applyAll (computingOrder st.operators) st.tokens store = (.ok row, store) ∧
        declarationsOf row = declarationsOf st.tokens ∧ Declared row store ms last after) ∧
      (∀ done op, FailsAt order st.tokens store done op → op.isDeclaration = false → ms = []) ∧
      (∀ done op, FailsAt order st.tokens store done op → op.isDeclaration = true →
        ms.map Mutation.operator = done.filter Operator.isDeclaration ∧
        ms.map Mutation.operator ++ [op] <+: declarationsOf st.tokens) ∧
      (∀ values, (st.evaluate store).1 = .ok values →
        ms.map Mutation.operator = declarationsOf st.tokens) ∧
      (∀ fault, (st.evaluate store).1 = .error fault →
        (∃ done op, FailsAt order st.tokens store done op) ∨
        ∃ row, applyAll order st.tokens store = (.ok row, after) ∧
          collect row after = .error fault ∧
          ms.map Mutation.operator = declarationsOf st.tokens) := by
  intro order after
  rcases evaluate_stages mirrored store with ⟨done, op, fault, fails, computes, ended⟩ |
    ⟨ms, row, last, final, computed, same, declared, ending⟩
  · have unchanged : after = store := congrArg Prod.snd ended
    refine ⟨[], by rw [unchanged]; rfl, List.nil_prefix, fun some => absurd rfl some,
      fun _ _ _ _ => rfl, ?_, ?_, ?_⟩
    · intro done' op' fails' declares
      obtain ⟨_, rfl⟩ := fails.unique fails'
      rw [computes] at declares
      cases declares
    · intro values result
      rw [ended] at result
      cases result
    · exact fun _ _ => .inl ⟨done, op, fails⟩
  rcases ending with ⟨all, applied⟩ | ⟨op, later, fault, split, fails, ended⟩
  · have evaluated : st.evaluate store = (collect last final, final) :=
      Action.bind_of_ok applied
    have reached : after = final := congrArg Prod.snd evaluated
    have never (done : List Operator) (op : Operator) :
        ¬ FailsAt order st.tokens store done op := by
      intro fails
      obtain ⟨fault, between, failed⟩ := fails.applyAll
      rw [failed] at applied
      cases applied
    rw [reached]
    refine ⟨ms, declared.commitAll, all ▸ List.prefix_rfl,
      fun _ => ⟨row, last, computed, same, declared⟩,
      fun done op fails => absurd fails (never done op),
      fun done op fails => absurd fails (never done op), fun _ _ => all, ?_⟩
    intro fault failed
    rw [evaluated] at failed
    exact .inr ⟨last, applied, failed, all⟩
  · have reached : after = final := congrArg Prod.snd ended
    have declares : op.isDeclaration = true := by
      have member : op ∈ declarationsOf st.tokens := by simp [split]
      exact (List.mem_filter.mp member).2
    rw [reached]
    refine ⟨ms, declared.commitAll, ⟨op :: later, split.symm⟩,
      fun _ => ⟨row, last, computed, same, declared⟩, ?_, ?_, ?_, fun _ _ => .inl ⟨_, op, fails⟩⟩
    · intro done op' fails' computes
      obtain ⟨_, rfl⟩ := fails.unique fails'
      rw [computes] at declares
      cases declares
    · intro done op' fails' _
      obtain ⟨rfl, rfl⟩ := fails.unique fails'
      refine ⟨?_, ⟨later, by simp [split]⟩⟩
      rw [List.filter_append, filter_computingOrder, List.nil_append]
      refine (List.filter_eq_self.mpr fun op member => ?_).symm
      have listed : op ∈ declarationsOf st.tokens := by
        rw [split]
        exact List.mem_append_left _ member
      exact (List.mem_filter.mp listed).2
    · intro values result
      rw [ended] at result
      cases result

/-- In a structure with the fields `a` and `b`, the line `a = true, b = c, b = true == true`
computes its comparison, carries out its first declaration and fails at the second one, since `c`
has no value. -/
theorem evaluate_leaves_prefix_second_fails :
    let start := (Store.empty.newInstance [("a", .bool false), ("b", .bool false)]).2
    let final := (Store.empty.newInstance [("a", .bool true), ("b", .bool false)]).2
    let st := Statement.ofTokens
      [.label ⟨⟨0⟩, "a"⟩, .operator .declare, .value (.bool true), .operator .separator,
        .label ⟨⟨0⟩, "b"⟩, .operator .declare, .label ⟨⟨0⟩, "c"⟩, .operator .separator,
        .label ⟨⟨0⟩, "b"⟩, .operator .declare, .value (.bool true), .operator .equal,
        .value (.bool true)]
    st.Mirrored ∧ st.evaluate start = (.error (.unresolved "c"), final) ∧
    FailsAt (reductionOrder st.operators) st.tokens start [.equal, .declare] .declare ∧
    ∃ ms : List Mutation, ms.map Mutation.operator = [.declare] ∧
      commitAll ms start = (.ok (), final) := by
  intro start final st
  have ended : st.evaluate start = (.error (.unresolved "c"), final) := by cbv
  have fails : FailsAt (reductionOrder st.operators) st.tokens start [.equal, .declare] .declare :=
    ⟨[.declare], _, final, .unresolved "c", final, rfl, rfl, by cbv⟩
  obtain ⟨ms, committed, _, _, _, declaring, _⟩ := evaluate_leaves_prefix st start rfl
  rw [ended] at committed
  exact ⟨rfl, ended, fails, ms, (declaring _ _ fails rfl).1, committed⟩

end Scriptlet
