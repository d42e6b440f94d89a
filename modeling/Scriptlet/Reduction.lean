import Scriptlet.Token
set_option autoImplicit false

/-!
# Reduction

A statement is reduced to its values by applying its operators one at a time, those of higher
priority first and equal ones from left to right.  Each application replaces an operator and its
operands by one token: the value it gives or, for a declaration, the label it has written to.  What
remains must be values with separators between them.
-/

namespace Scriptlet

/-! ## One operator -/

/-- A write that a declaration asks for. -/
structure Mutation where
  target : Label
  operator : Operator
  value : Value

/-- Carries out the write and gives the value that is bound afterwards. -/
def Mutation.commit (m : Mutation) : Action Value :=
  match m.operator.base? with
  | some base => changeBy m.target.scope m.target.name m.value base
  | none => do
    declare m.target.scope m.target.name m.value
    return m.value

/-- What an operator makes of its operands. -/
inductive Outcome where
  | value (v : Value)
  | mutation (m : Mutation)

/-- Evaluates an operator on the tokens beside it.  Neither may be an operator, and a declaration
needs a label on its left. -/
def Operator.evaluate (op : Operator) (left right : Token) (store : Store) :
    Except Fault Outcome :=
  match left.operator?, right.operator? with
  | some other, _ => .error (.operandIsOperator op other)
  | none, some other => .error (.operandIsOperator op other)
  | none, none =>
    if op.isDeclaration then
      match left with
      | .label target => do
        let value ← right.resolved store
        return .mutation ⟨target, op, value⟩
      | _ => .error (.notName op)
    else do
      let a ← left.resolved store
      let b ← right.resolved store
      return .value (← op.apply a b)

/-- The token that stands for an outcome; a mutation is carried out. -/
def Outcome.settle : Outcome → Action Token
  | value v => return .value v
  | mutation m => do
    let _ ← m.commit
    return .label m.target

/-! ## One step -/

/-- The tokens before and after the first occurrence of an operator, those before it from the nearest
to the farthest; `passed` are the tokens that were looked at already. -/
def splitAtOperator (op : Operator) (passed : List Token) :
    List Token → Option (List Token × List Token)
  | [] => none
  | token :: rest =>
    if token.isThe op then some (passed, rest) else splitAtOperator op (token :: passed) rest

/-- The operand on the left of an operator, and what stands before it: the nearest token, unless
that is an operator too.  Then the operator is a sign. -/
def leftOperand? : List Token → Option (Token × List Token)
  | [] => none
  | left :: earlier => if left.isOperator then none else some (left, earlier)

/-- Applies the first occurrence of an operator to its operands and puts the result in their
place.  A sign takes zero for the operand it lacks. -/
def applyFirst (op : Operator) (tokens : List Token) : Action (List Token) :=
  match splitAtOperator op [] tokens with
  | none => .fail (.operatorMissing op)
  | some (_, []) => .fail (.rightMissing op)
  | some (before, right :: rest) =>
    match leftOperand? before with
    | some (left, earlier) => do
      let outcome ← Action.ask (op.evaluate left right)
      let result ← outcome.settle
      return earlier.reverseAux (result :: rest)
    | none =>
      if op.isSign then do
        let outcome ← Action.ask (op.evaluate (.value (.number 0.0)) right)
        let result ← outcome.settle
        return before.reverseAux (result :: rest)
      else .fail (.notSign op)

/-! ## All operators -/

/-- The priorities at which operators are applied, highest first. -/
def priorities : List Int := [60, 40, 30, 20, 15, 10]

/-- The order in which the operators of a statement are applied: by descending priority, and in
their own order where priorities are equal.  Separators stay. -/
def reductionOrder (operators : List Operator) : List Operator :=
  priorities.flatMap fun priority => operators.filter fun op => op.priority == priority

/-- Applies operators one after the other. -/
def applyAll : List Operator → List Token → Action (List Token)
  | [], tokens => return tokens
  | op :: rest, tokens => do
    let reduced ← applyFirst op tokens
    applyAll rest reduced

/-! ## The values -/

/-- The fault of a row that is not made of values and separators in turn. -/
def irreducible (tokens : List Token) (store : Store) : Fault :=
  .irreducible (" ".intercalate (tokens.map (Token.text store)))

mutual

/-- Reads a row that goes on with a value; `whole` is the row it belongs to. -/
def collectValues (whole : List Token) (store : Store) : List Token → Except Fault (List Value)
  | [] => .ok []
  | .operator _ :: _ => .error (irreducible whole store)
  | token :: rest =>
    match token.resolved store with
    | .error fault => .error fault
    | .ok v => (collectSeparator whole store rest).map (v :: ·)

/-- Reads a row that is at its end or goes on with a separator. -/
def collectSeparator (whole : List Token) (store : Store) : List Token → Except Fault (List Value)
  | [] => .ok []
  | token :: rest =>
    if token.isSeparator then collectValues whole store rest else .error (irreducible whole store)

end

/-- A token that is not an operator is read for its value. -/
theorem collectValues_cons (whole : List Token) (store : Store) {token : Token}
    (operand : token.isOperator = false) (rest : List Token) :
    collectValues whole store (token :: rest) = do
      let v ← token.resolved store
      let values ← collectSeparator whole store rest
      return v :: values := by
  rw [collectValues]
  · cases token.resolved store with
    | error fault => rfl
    | ok v => cases collectSeparator whole store rest <;> rfl
  · rintro op rfl
    cases operand

/-- The values of a row `value (separator value)*`, or of the empty row. -/
def collect (tokens : List Token) (store : Store) : Except Fault (List Value) :=
  if tokens.length % 2 = 0 ∧ tokens ≠ [] then .error (irreducible tokens store)
  else collectValues tokens store tokens

/-- The values a statement reduces to.  Declarations write on the way, and what they wrote stays
even if the reduction fails later. -/
def Statement.evaluate (st : Statement) : Action (List Value) := do
  let tokens ← applyAll (reductionOrder st.operators) st.tokens
  Action.ask (collect tokens)

end Scriptlet
