import Scriptlet.Library
import Scriptlet.Proofs.Acceptance
set_option autoImplicit false

/-!
# What a step can end with

A step on the store ends with a result or with a fault.  What can be said of either, whatever the
store, is carried from step to step by one rule.  The main statements are about faults: a call of a
routine, and the evaluation of a statement that lists exactly its own operators, fail with faults of
values only.  In particular an operator that is to be applied is always found, since each
application takes exactly one operator out of the row.
-/

namespace Scriptlet

/-! ## Results and faults -/

/-- A result as `good` says, or a fault as `bad` says. -/
inductive Meets {α : Type} (good : α → Prop) (bad : Fault → Prop) : Except Fault α → Prop where
  | ok {a : α} (holds : good a) : Meets good bad (.ok a)
  | error {fault : Fault} (holds : bad fault) : Meets good bad (.error fault)

namespace Meets

variable {α β : Type} {good weaker : α → Prop} {bad worse : Fault → Prop} {x : Except Fault α}

theorem mono (meets : Meets good bad x) (results : ∀ a, good a → weaker a)
    (faults : ∀ fault, bad fault → worse fault) : Meets weaker worse x := by
  cases meets with
  | ok holds => exact .ok (results _ holds)
  | error holds => exact .error (faults _ holds)

theorem bind {other : β → Prop} {f : α → Except Fault β} (meets : Meets good bad x)
    (next : ∀ a, good a → Meets other bad (f a)) : Meets other bad (x >>= f) := by
  cases meets with
  | ok holds => exact next _ holds
  | error holds => exact .error holds

theorem of_fault (faults : ∀ fault, x = .error fault → bad fault) :
    Meets (fun _ => True) bad x := by
  cases x with
  | ok a => exact .ok trivial
  | error fault => exact .error (faults fault rfl)

theorem fault {fault : Fault} (meets : Meets good bad x) (failed : x = .error fault) :
    bad fault := by
  cases meets with
  | ok _ => cases failed
  | error holds =>
    cases failed
    exact holds

theorem result {a : α} (meets : Meets good bad x) (done : x = .ok a) : good a := by
  cases meets with
  | ok holds =>
    cases done
    exact holds
  | error _ => cases done

end Meets

/-- Whatever the store, the step ends with a result as `good` says or a fault as `bad` says. -/
def Action.Ensures {α : Type} (a : Action α) (good : α → Prop) (bad : Fault → Prop) : Prop :=
  ∀ store, Meets good bad (a store).1

namespace Action.Ensures

variable {α β : Type} {a : Action α} {good weaker : α → Prop} {bad worse : Fault → Prop}

theorem ask {read : Store → Except Fault α} (meets : ∀ store, Meets good bad (read store)) :
    (Action.ask read).Ensures good bad :=
  meets

theorem ofExcept {x : Except Fault α} (meets : Meets good bad x) :
    (Action.ofExcept x).Ensures good bad :=
  fun _ => meets

theorem pure {x : α} (holds : good x) : Action.Ensures (Pure.pure x) good bad :=
  fun _ => .ok holds

theorem fail {fault : Fault} (holds : bad fault) : (Action.fail fault).Ensures good bad :=
  fun _ => .error holds

theorem mono (ensures : a.Ensures good bad) (results : ∀ x, good x → weaker x)
    (faults : ∀ fault, bad fault → worse fault) : a.Ensures weaker worse :=
  fun store => (ensures store).mono results faults

theorem bind {other : β → Prop} {f : α → Action β} (ensures : a.Ensures good bad)
    (next : ∀ x, good x → (f x).Ensures other bad) : (a >>= f).Ensures other bad := by
  intro store
  have first := ensures store
  cases done : a store with
  | mk result between =>
    rw [done] at first
    cases first with
    | ok holds =>
      rw [Action.bind_of_ok done]
      exact next _ holds between
    | error holds =>
      rw [Action.bind_of_error done]
      exact .error holds

/-- What is ensured of a result holds of results that the step really has. -/
theorem produced (ensures : a.Ensures good bad) :
    a.Ensures (fun x => good x ∧ ∃ store after, a store = (.ok x, after)) bad := by
  intro store
  have meets := ensures store
  cases done : a store with
  | mk result after =>
    rw [done] at meets
    cases meets with
    | ok holds => exact .ok ⟨holds, store, after, done⟩
    | error holds => exact .error holds

end Action.Ensures

/-! ## Ordinary faults -/

/-- Any fault but these: reading was to start before the text, a separator could not be added, the
brackets nest too deep, or an operator to apply is not in the row. -/
def Fault.Ordinary : Fault → Prop
  | negativeStart _ => False
  | chainEmpty => False
  | chainIncomplete _ _ => False
  | chainTwice => False
  | tooDeep _ => False
  | operatorMissing _ => False
  | _ => True

theorem Fault.ordinary_iff (fault : Fault) :
    fault.Ordinary ↔ fault.code.number ∉ [100, 120, 130, 140, 195, 200] := by
  cases fault <;> simp [Ordinary, code]

/-- The fault of a bracket that is not closed, or closes nothing, or closes another one. -/
def Fault.OfBrackets : Fault → Prop
  | openBracket _ => True
  | openBlock _ => True
  | strayClosing _ _ => True
  | closingMismatch _ _ _ => True
  | _ => False

theorem Fault.ofBrackets_iff (fault : Fault) :
    fault.OfBrackets ↔ fault.code.number ∈ [192, 194, 197] := by
  cases fault <;> simp [OfBrackets, code]

theorem Fault.OfBrackets.ordinary {fault : Fault} (brackets : fault.OfBrackets) :
    fault.Ordinary := by
  rw [Fault.ofBrackets_iff] at brackets
  rw [Fault.ordinary_iff]
  simp only [List.mem_cons, List.not_mem_nil, or_false] at brackets ⊢
  omega

/-- The fault of a token, a value or a name: an ordinary one that is not of brackets. -/
def Fault.OfTokens : Fault → Prop
  | negativeStart _ => False
  | chainEmpty => False
  | chainIncomplete _ _ => False
  | chainTwice => False
  | tooDeep _ => False
  | operatorMissing _ => False
  | openBracket _ => False
  | openBlock _ => False
  | strayClosing _ _ => False
  | closingMismatch _ _ _ => False
  | _ => True

theorem Fault.ofTokens_iff (fault : Fault) :
    fault.OfTokens ↔ fault.Ordinary ∧ ¬ fault.OfBrackets := by
  cases fault <;> simp [OfTokens, Ordinary, OfBrackets]

theorem Fault.OfTokens.ordinary {fault : Fault} (tokens : fault.OfTokens) : fault.Ordinary :=
  (fault.ofTokens_iff.mp tokens).1

/-- The fault of a value, a name or an operator at work, and none of reading a text.  That of a list
without an end is not among them. -/
def Fault.OfValues : Fault → Prop
  | notSign _ => True
  | irreducible _ => True
  | noResult _ => True
  | rightMissing _ => True
  | operandIsOperator _ _ => True
  | operatorIsNoValue _ => True
  | argumentCount _ _ _ => True
  | rangeArguments _ => True
  | fieldCount _ _ _ => True
  | fieldMissing _ => True
  | notNamespace _ _ => True
  | typeMismatch _ _ => True
  | notNatural _ _ => True
  | unreadable _ _ => True
  | argumentMissing _ _ _ => True
  | notName _ => True
  | unresolved _ => True
  | unknownLibrary _ _ => True
  | neverDeclared _ => True
  | _ => False

/-- The fault of a call: that of a value, or of a list without an end. -/
def Fault.OfCalls (fault : Fault) : Prop := fault.OfValues ∨ fault = .endless

theorem Fault.not_ofValues_endless : ¬ Fault.endless.OfValues := id

theorem Fault.OfValues.ofTokens {fault : Fault} (values : fault.OfValues) : fault.OfTokens := by
  cases fault <;> trivial

theorem Fault.OfCalls.ofTokens {fault : Fault} (calls : fault.OfCalls) : fault.OfTokens := by
  rcases calls with values | rfl
  · exact values.ofTokens
  · trivial

/-- Any result, or the fault of a value. -/
abbrev Proper {α : Type} (x : Except Fault α) : Prop :=
  Meets (fun _ => True) Fault.OfValues x

/-- A step whose faults are those of values. -/
abbrev Action.Proper {α : Type} (a : Action α) : Prop :=
  a.Ensures (fun _ => True) Fault.OfValues

/-- Faults of values are also those of a token. -/
theorem Action.Proper.ofTokens {α : Type} {a : Action α} (proper : a.Proper) :
    a.Ensures (fun _ => True) Fault.OfTokens :=
  proper.mono (fun _ => id) fun _ => Fault.OfValues.ofTokens

namespace Proper

variable {α β : Type} {x : Except Fault α}

theorem pure (a : α) : Proper (Pure.pure a) := .ok trivial

theorem bind {f : α → Except Fault β} (first : Proper x) (next : ∀ a, Proper (f a)) :
    Proper (x >>= f) :=
  Meets.bind first fun a _ => next a

theorem map (first : Proper x) (f : α → β) : Proper (x.map f) := by
  cases first with
  | ok _ => exact .ok trivial
  | error holds => exact .error holds

end Proper

theorem Action.Proper.bind {α β : Type} {a : Action α} {f : α → Action β} (first : a.Proper)
    (next : ∀ x, (f x).Proper) : (a >>= f).Proper :=
  Ensures.bind first fun x _ => next x

/-! ## Access to values -/

namespace Value

theorem proper_asNumber (v : Value) : Proper v.asNumber := by
  refine .of_fault fun fault failed => ?_
  cases v <;> cases failed <;> trivial

theorem proper_asInt (v : Value) : Proper v.asInt := v.proper_asNumber.map _

theorem proper_asBool (v : Value) : Proper v.asBool := by
  refine .of_fault fun fault failed => ?_
  cases v <;> cases failed <;> trivial

theorem proper_asString (v : Value) : Proper v.asString := by
  refine .of_fault fun fault failed => ?_
  cases v <;> cases failed <;> trivial

end Value

/-! ## Calls -/

theorem proper_declare (id : ScopeId) (name : String) (value : Value) :
    (declare id name value).Proper := by
  intro store
  unfold declare
  split
  · exact .ok trivial
  split
  · exact .error trivial
  · exact .ok trivial

namespace Library

theorem ofValues_countFault (name : String) (expected given : Nat) :
    (countFault name expected given).OfValues := by
  rw [countFault]
  split <;> trivial

theorem proper_single (name : String) (args : List Value) : Proper (single name args) := by
  unfold single
  split
  · exact .pure _
  · exact .error (ofValues_countFault _ _ _)

theorem proper_pair (name : String) (args : List Value) : Proper (pair name args) := by
  unfold pair
  split
  · exact .pure _
  · exact .error (ofValues_countFault _ _ _)

theorem proper_natural (name : String) (v : Value) : Proper (natural name v) := by
  refine v.proper_asNumber.bind fun n => ?_
  split
  · exact .pure _
  · exact .error trivial

theorem proper_makeRange (args : List Value) : Proper (makeRange args) := by
  unfold makeRange
  split
  · exact (Value.proper_asInt _).bind fun _ => .pure _
  · refine (Value.proper_asInt _).bind fun _ => ?_
    refine (Value.proper_asInt _).bind fun _ => ?_
    exact (Value.proper_asInt _).bind fun _ => .pure _
  · exact .error trivial

theorem proper_toInt (v : Value) : Proper (toInt v) := by
  unfold toInt
  split
  · split
    · exact .pure _
    · exact .error trivial
  · exact (Value.proper_asInt _).bind fun _ => .pure _

theorem proper_toFloat (v : Value) : Proper (toFloat v) := by
  unfold toFloat
  split
  · split
    · exact .pure _
    · exact .error trivial
  · exact (Value.proper_asNumber _).bind fun _ => .pure _

theorem proper_allTrue (args : List Value) : Proper (allTrue args) := by
  induction args with
  | nil => exact .pure _
  | cons arg rest ih => exact arg.proper_asBool.bind fun _ => ih.bind fun _ => .pure _

theorem proper_fieldNames (args : List Value) : Proper (fieldNames args) := by
  induction args with
  | nil => exact .pure _
  | cons arg rest ih => exact arg.proper_asString.bind fun _ => ih.bind fun _ => .pure _

/-- Items are refused for their type, or for a range without an end. -/
theorem items_fault {v : Value} {fault : Fault} (failed : items v = .error fault) :
    fault.OfValues ∨ fault = .endless ∧ ∃ r : Range, v = .range r ∧ r.toList? = none := by
  unfold items at failed
  split at failed
  · rename_i r
    split at failed
    · cases failed
    · cases failed
      exact .inr ⟨rfl, r, rfl, by assumption⟩
  · cases failed
  · cases failed
  · cases failed
    exact .inl trivial

theorem proper_count (v : Value) : Proper (count v) := by
  unfold count
  split
  · exact .pure _
  · exact .pure _
  · exact .error trivial

theorem proper_load (name : String) : (load name).Proper := by
  rw [load]
  split
  · exact fun _ => .ok trivial
  · exact .fail trivial

theorem single_ok {name : String} {v : Value} {args : List Value}
    (done : single name args = .ok v) : args = [v] := by
  rw [single.eq_def] at done
  split at done <;> cases done
  rfl

/-- All built-in functions but the one that lists items. -/
theorem proper_callBuiltin {builtin : Builtin} (other : builtin ≠ .list) (caller : ScopeId)
    (args : List Value) : (callBuiltin builtin caller args).Proper := by
  cases builtin with
  | range => exact .ofExcept (proper_makeRange args)
  | typeOf => exact .ofExcept ((proper_single _ _).bind fun _ => .pure _)
  | text => exact .ask fun _ => (proper_single _ _).bind fun _ => .pure _
  | int => exact .ofExcept ((proper_single _ _).bind proper_toInt)
  | float => exact .ofExcept ((proper_single _ _).bind proper_toFloat)
  | print output => exact fun _ => .ok trivial
  | load =>
    refine Action.Proper.bind (.ofExcept (proper_single _ _)) fun value => ?_
    refine Action.Proper.bind (.ofExcept value.proper_asString) fun name => ?_
    refine (proper_load name).bind fun library => ?_
    exact (proper_declare _ _ _).bind fun _ => .pure trivial
  | gate => exact .ofExcept ((proper_allTrue args).bind fun _ => .pure _)
  | structureOf =>
    refine Action.Proper.bind (.ofExcept (proper_fieldNames args)) fun fields => ?_
    exact fun _ => .ok trivial
  | list => exact absurd rfl other
  | length =>
    refine .ofExcept ((proper_single _ _).bind fun value => ?_)
    exact (proper_count value).bind fun _ => .pure _
  | real f =>
    refine .ofExcept ((proper_single _ _).bind fun value => ?_)
    exact value.proper_asNumber.bind fun _ => .pure _
  | hypotenuse =>
    refine .ofExcept ((proper_pair _ _).bind fun (x, y) => ?_)
    exact x.proper_asNumber.bind fun _ => y.proper_asNumber.bind fun _ => .pure _
  | factorial =>
    refine .ofExcept ((proper_single _ _).bind fun value => ?_)
    exact (proper_natural _ value).bind fun _ => .pure _
  | binomial =>
    refine .ofExcept ((proper_pair _ _).bind fun (n, k) => ?_)
    exact (proper_natural _ n).bind fun _ => (proper_natural _ k).bind fun _ => .pure _

theorem proper_instantiate (name : String) (fields : List String) (values : List Value) :
    (instantiate name fields values).Proper := by
  rw [instantiate]
  split
  · exact fun _ => .ok trivial
  · exact .fail trivial

end Library

/-- A call without an end: a range is to be listed, and its items cannot be. -/
def Routine.Endless (r : Routine) (args : List Value) : Prop :=
  r.behaviour = .builtin .list ∧ ∃ range : Range, args = [.range range] ∧ range.toList? = none

theorem Library.list_fault {caller : ScopeId} {args : List Value} {store : Store} {fault : Fault}
    (failed : (callBuiltin .list caller args store).1 = .error fault) :
    fault.OfValues ∨ fault = .endless ∧ ∃ r : Range, args = [.range r] ∧ r.toList? = none := by
  rcases except_bind_error failed with counted | ⟨v, only, failed⟩
  · exact .inl ((proper_single "list" args).fault counted)
  rcases except_bind_error failed with refused | ⟨_, _, done⟩
  · rcases items_fault refused with values | ⟨endless, r, rfl, unlisted⟩
    · exact .inl values
    · exact .inr ⟨endless, r, single_ok only, unlisted⟩
  · cases done

/-- A call fails with the fault of a value, or because it would have no end. -/
theorem Routine.ensures_call (r : Routine) (caller : ScopeId) (args : List Value) :
    (r.call caller args).Ensures (fun _ => True)
      fun fault => fault.OfValues ∨ fault = .endless ∧ r.Endless args := by
  intro store
  cases behaves : r.behaviour with
  | instantiate fields =>
    simp only [Routine.call, behaves]
    exact (Library.proper_instantiate _ fields args store).mono (fun _ _ => trivial) fun _ => .inl
  | builtin builtin =>
    simp only [Routine.call, behaves]
    by_cases list : builtin = .list
    · subst list
      refine .of_fault fun fault failed => ?_
      rcases Library.list_fault failed with values | ⟨endless, found⟩
      · exact .inl values
      · exact .inr ⟨endless, behaves, found⟩
    · exact (Library.proper_callBuiltin list caller args store).mono (fun _ _ => trivial) fun _ => .inl

theorem Routine.ofCalls_call (r : Routine) (caller : ScopeId) (args : List Value) :
    (r.call caller args).Ensures (fun _ => True) Fault.OfCalls :=
  (r.ensures_call caller args).mono (fun _ _ => trivial) fun _ faults => faults.imp_right And.left

/-! ## Evaluation -/

theorem Store.proper_resolve (store : Store) (id : ScopeId) (name : String) :
    Proper (store.resolve id name) := by
  rw [Store.resolve]
  split
  · exact .pure _
  · exact .error trivial

theorem Token.proper_resolved (token : Token) (store : Store) : Proper (token.resolved store) := by
  cases token with
  | value v => exact .pure v
  | label l => exact store.proper_resolve l.scope l.name
  | operator op => exact .error trivial

theorem Operator.proper_apply (op : Operator) (left right : Value) :
    Proper (op.apply left right) := by
  have number (f : Float → Float → Float) : Proper (arithmetic f left right) := by
    unfold arithmetic
    split
    · rename_i failed
      exact .error (left.proper_asNumber.fault failed)
    split
    · rename_i failed
      exact .error (right.proper_asNumber.fault failed)
    · exact .pure _
  cases op with
  | equal => exact .pure _
  | unequal => exact .pure _
  | add => exact number _
  | sub => exact number _
  | mul => exact number _
  | div => exact number _
  | rem => exact number _
  | pow => exact number _
  | separator => exact .error trivial
  | declare => exact .error trivial
  | addTo => exact .error trivial
  | subTo => exact .error trivial
  | mulTo => exact .error trivial
  | divTo => exact .error trivial

theorem Operator.proper_evaluate (op : Operator) (left right : Token) (store : Store) :
    Proper (op.evaluate left right store) := by
  unfold Operator.evaluate
  split
  · exact .error trivial
  · exact .error trivial
  · split
    · split
      · exact (right.proper_resolved store).bind fun _ => .pure _
      · exact .error trivial
    · refine (left.proper_resolved store).bind fun a => ?_
      refine (right.proper_resolved store).bind fun b => ?_
      exact (op.proper_apply a b).bind fun _ => .pure _

theorem proper_changeBy (id : ScopeId) (name : String) (value : Value) (op : Operator) :
    (changeBy id name value op).Proper := by
  refine Action.Proper.bind (.ask fun store => ?_) fun present => ?_
  · split
    · exact .ok trivial
    · exact .error trivial
  refine Action.Proper.bind (.ofExcept (op.proper_apply present value)) fun next => ?_
  exact (proper_declare id name next).bind fun _ => .pure trivial

theorem Mutation.proper_commit (m : Mutation) : m.commit.Proper := by
  unfold Mutation.commit
  split
  · exact proper_changeBy _ _ _ _
  · exact (proper_declare _ _ _).bind fun _ => .pure trivial

theorem Outcome.proper_settle (outcome : Outcome) : outcome.settle.Proper := by
  cases outcome with
  | value v => exact .pure trivial
  | mutation m => exact m.proper_commit.bind fun _ => .pure trivial

theorem Token.operator?_of_isOperator {token : Token} (operand : token.isOperator = false) :
    token.operator? = none := by
  cases token with
  | value v => rfl
  | label l => rfl
  | operator op => cases operand

/-- The operators of a row are those of its first token, if it is one, and of the others. -/
theorem Token.filterMap_operator?_cons (token : Token) (rest : List Token) :
    (token :: rest).filterMap operator? = token.operator?.toList ++ rest.filterMap operator? := by
  cases token <;> rfl

/-- An application takes the operator it was asked for out of the row, and no other. -/
theorem perm_of_applyFirst {op : Operator} {tokens reduced : List Token} {store after : Store}
    (done : applyFirst op tokens store = (.ok reduced, after)) :
    (tokens.filterMap Token.operator?).Perm (op :: reduced.filterMap Token.operator?) := by
  obtain ⟨front, right, result, rest, operand, value, rfl, found⟩ := applyFirst_ok done
  have middle {token : Token} (other : token.isOperator = false) (later : List Token) :
      (token :: later).filterMap Token.operator? = later.filterMap Token.operator? :=
    List.filterMap_cons_none (Token.operator?_of_isOperator other)
  have applied (later : List Token) : (.operator op :: later).filterMap Token.operator? =
      op :: later.filterMap Token.operator? :=
    Token.filterMap_operator?_cons (.operator op) later
  rw [List.filterMap_append, middle value]
  rcases found with rfl | ⟨left, leftOperand, rfl⟩
  · rw [List.filterMap_append, applied, middle operand]
    exact List.perm_middle
  · rw [List.filterMap_append, middle leftOperand, applied, middle operand]
    exact List.perm_middle

theorem exists_splitAtOperator {op : Operator} {tokens : List Token}
    (present : op ∈ tokens.filterMap Token.operator?) (passed : List Token) :
    ∃ parts, splitAtOperator op passed tokens = some parts := by
  induction tokens generalizing passed with
  | nil => cases present
  | cons token rest ih =>
    rw [splitAtOperator]
    by_cases here : token.isThe op = true
    · exact ⟨_, if_pos here⟩
    · rw [if_neg here]
      refine ih ?_ _
      cases token with
      | value v => exact present
      | label l => exact present
      | operator other =>
        have distinct : op ≠ other := by
          rintro rfl
          exact here (beq_self_eq_true op)
        exact (List.mem_cons.mp present).resolve_left distinct

/-- An operator is applied, or fails with the fault of a value, or is not in the row. -/
theorem ensures_applyFirst (op : Operator) (tokens : List Token) :
    (applyFirst op tokens).Ensures (fun _ => True) fun fault =>
      fault.OfValues ∨ fault = .operatorMissing op ∧ op ∉ tokens.filterMap Token.operator? := by
  have operated (left right : Token) (earlier rest : List Token) : Action.Proper do
      let outcome ← Action.ask (op.evaluate left right)
      let result ← outcome.settle
      return earlier.reverseAux (result :: rest) := by
    refine Action.Proper.bind (.ask (op.proper_evaluate left right)) fun outcome => ?_
    exact outcome.proper_settle.bind fun _ => .pure trivial
  unfold applyFirst
  cases found : splitAtOperator op [] tokens with
  | none =>
    refine .fail (.inr ⟨rfl, fun present => ?_⟩)
    obtain ⟨parts, there⟩ := exists_splitAtOperator present []
    rw [found] at there
    cases there
  | some parts =>
    obtain ⟨before, later⟩ := parts
    cases later with
    | nil => exact .fail (.inl trivial)
    | cons right rest =>
      suffices proper : Action.Proper _ from proper.mono (fun _ => id) fun _ => .inl
      simp only
      split
      · exact operated _ _ _ _
      · split
        · exact operated _ _ _ _
        · exact .fail trivial

/-- An operator that is in the row is applied, or fails with the fault of a value. -/
theorem proper_applyFirst {op : Operator} {tokens : List Token}
    (present : op ∈ tokens.filterMap Token.operator?) : (applyFirst op tokens).Proper :=
  (ensures_applyFirst op tokens).mono (fun _ => id) fun _ faults =>
    faults.resolve_right fun missing => missing.2 present

/-- Operators that are all in the row, each as often as it is to be applied, are all found. -/
theorem proper_applyAll (order : List Operator) {tokens : List Token}
    (listed : ∀ op, order.count op ≤ (tokens.filterMap Token.operator?).count op) :
    (applyAll order tokens).Proper := by
  induction order generalizing tokens with
  | nil => exact .pure trivial
  | cons op rest ih =>
    have present : op ∈ tokens.filterMap Token.operator? := by
      have here := listed op
      rw [List.count_cons_self] at here
      exact List.count_pos_iff.mp (by omega)
    refine Action.Ensures.bind (proper_applyFirst present).produced ?_
    rintro reduced ⟨_, store, after, done⟩
    refine ih fun other => ?_
    have taken := (perm_of_applyFirst done).count_eq other
    have before := listed other
    rw [List.count_cons] at taken before
    omega

theorem count_filter_priority (op : Operator) (level : Int) (operators : List Operator) :
    (operators.filter fun op => op.priority == level).count op =
      if op.priority = level then operators.count op else 0 := by
  split
  · exact List.count_filter (by simpa)
  · rename_i other
    refine List.count_eq_zero.mpr fun member => other ?_
    exact eq_of_beq (List.mem_filter.mp member).2

/-- Each operator is applied as often as it is listed, and separators never are. -/
theorem count_reductionOrder (op : Operator) (operators : List Operator) :
    (reductionOrder operators).count op = if op = .separator then 0 else operators.count op := by
  simp only [reductionOrder, priorities, List.flatMap_cons, List.flatMap_nil, List.count_append,
    count_filter_priority, List.count_nil]
  cases op <;> simp [Operator.priority]

theorem count_reductionOrder_le (op : Operator) (operators : List Operator) :
    (reductionOrder operators).count op ≤ operators.count op := by
  rw [count_reductionOrder]
  split
  · exact Nat.zero_le _
  · exact Nat.le_refl _

theorem proper_collectValues (whole : List Token) (store : Store) (tokens : List Token) :
    Proper (collectValues whole store tokens) ∧ Proper (collectSeparator whole store tokens) := by
  induction tokens with
  | nil => exact ⟨.pure _, .pure _⟩
  | cons token rest ih =>
    constructor
    · cases kind : token.isOperator with
      | false =>
        rw [collectValues_cons _ _ kind]
        exact (token.proper_resolved store).bind fun _ => ih.2.bind fun _ => .pure _
      | true =>
        cases token with
        | operator op => exact .error trivial
        | value v => cases kind
        | label l => cases kind
    · rw [collectSeparator]
      split
      · exact ih.1
      · exact .error trivial

theorem proper_collect (tokens : List Token) (store : Store) : Proper (collect tokens store) := by
  rw [collect]
  split
  · exact .error trivial
  · exact (proper_collectValues tokens store tokens).1

/-- Whatever operators a statement lists, it fails with the fault of a value or for an operator that
is not among its tokens. -/
theorem Statement.ensures_evaluate (st : Statement) :
    st.evaluate.Ensures (fun _ => True) fun fault =>
      fault.OfValues ∨ ∃ op, fault = .operatorMissing op := by
  have applied (order : List Operator) : ∀ tokens, (applyAll order tokens).Ensures (fun _ => True)
      fun fault => fault.OfValues ∨ ∃ op, fault = .operatorMissing op := by
    induction order with
    | nil => exact fun tokens => .pure trivial
    | cons op rest ih =>
      intro tokens
      have first : (applyFirst op tokens).Ensures (fun _ => True)
          fun fault => fault.OfValues ∨ ∃ op, fault = .operatorMissing op :=
        (ensures_applyFirst op tokens).mono (fun _ => id) fun _ faults =>
          faults.imp_right fun missing => ⟨op, missing.1⟩
      exact first.bind fun reduced _ => ih reduced
  refine (applied _ st.tokens).bind fun tokens _ => ?_
  exact .ask fun store => (proper_collect tokens store).mono (fun _ => id) fun _ => .inl

/-- A statement that lists exactly its own operators fails with the fault of a value. -/
theorem Statement.Mirrored.ensures_evaluate {st : Statement} (mirrored : st.Mirrored) :
    st.evaluate.Proper := by
  have listed (op : Operator) : (reductionOrder st.operators).count op ≤
      (st.tokens.filterMap Token.operator?).count op := by
    rw [← mirrored]
    exact count_reductionOrder_le op st.operators
  exact (proper_applyAll _ listed).bind fun tokens => .ask (proper_collect tokens)

theorem Statement.Mirrored.proper_evaluate {st : Statement} (mirrored : st.Mirrored) :
    st.evaluate.Ensures (fun _ => True) Fault.Ordinary :=
  mirrored.ensures_evaluate.mono (fun _ => id) fun _ values => values.ofTokens.ordinary

end Scriptlet
