import Scriptlet.Action
import Scriptlet.Display
set_option autoImplicit false

/-!
# Tokens and statements

A statement is a row of tokens together with the operators among them, in the same order.  Adding a
token keeps the two in step; a statement can also be put together from two lists that disagree.
-/

namespace Scriptlet

/-- A name in a scope, whose value is read when it is needed. -/
structure Label where
  scope : ScopeId
  name : String
  deriving DecidableEq, Repr

namespace Label

/-- The value a label stands for at this moment. -/
def resolve (l : Label) (store : Store) : Except Fault Value := store.resolve l.scope l.name

/-- What a label is like, for a reader who looks into it. -/
def describe (l : Label) : String := "Unresolved(" ++ l.name ++ ")"

end Label

/-- The smallest unit of a statement. -/
inductive Token where
  /-- a literal, or the result of a bracket or a call -/
  | value (v : Value)
  /-- a name -/
  | label (l : Label)
  /-- an operator or a separator -/
  | operator (op : Operator)

namespace Token

/-- The value behind a token: that of a label is looked up. -/
def resolved (store : Store) : Token → Except Fault Value
  | value v => .ok v
  | label l => l.resolve store
  | operator op => .error (.operatorIsNoValue op)

/-- The operator a token is. -/
def operator? : Token → Option Operator
  | operator op => some op
  | _ => none

/-- Whether the token is an operator. -/
def isOperator : Token → Bool
  | operator _ => true
  | _ => false

/-- Whether the token is this operator. -/
def isThe (op : Operator) : Token → Bool
  | operator other => other == op
  | _ => false

/-- Whether the token is a separator. -/
def isSeparator (t : Token) : Bool := t.isThe .separator

/-- Equality of the language: labels are equal when name and scope agree. -/
def equals : Token → Token → Bool
  | value a, value b => a == b
  | label a, label b => a == b
  | operator a, operator b => a == b
  | _, _ => false

instance : BEq Token := ⟨equals⟩

/-- The text of a token: a string is quoted, a label shows its name. -/
def text (store : Store) : Token → String
  | value (.string s) => quoted s
  | value v => store.valueText v
  | label l => l.name
  | operator op => op.symbol

end Token

/-- A row of tokens and the operators among them. -/
structure Statement where
  tokens : List Token
  operators : List Operator

namespace Statement

/-- The statement without a token. -/
def empty : Statement := ⟨[], []⟩

instance : Inhabited Statement := ⟨empty⟩

/-- Adds a token; an operator also goes to the operators. -/
def push (st : Statement) (token : Token) : Statement :=
  ⟨st.tokens ++ [token], st.operators ++ token.operator?.toList⟩

/-- Adds all tokens and operators of another statement. -/
def append (st other : Statement) : Statement :=
  ⟨st.tokens ++ other.tokens, st.operators ++ other.operators⟩

/-- The statement of a row of tokens. -/
def ofTokens (tokens : List Token) : Statement := ⟨tokens, tokens.filterMap Token.operator?⟩

/-- Puts a token in the place of the last one, if there is one; the operators stay. -/
def replaceLast (st : Statement) (token : Token) : Statement :=
  if st.tokens.isEmpty then st else { st with tokens := st.tokens.dropLast ++ [token] }

/-- Adds a separator, so that another statement may follow.  The statement must be complete: not
empty, not ending in a separator, and with one operand more than operators. -/
def chain (st : Statement) : Except Fault Statement :=
  if st.tokens.isEmpty then .error .chainEmpty
  else if st.tokens.getLast?.any Token.isSeparator ||
      st.operators.getLast? == some .separator then .error .chainTwice
  else if st.tokens.length ≠ 2 * st.operators.length + 1 then
    .error (.chainIncomplete st.tokens.length st.operators.length)
  else .ok (st.push (.operator .separator))

/-- The tokens with blanks between them. -/
def text (st : Statement) (store : Store) : String :=
  " ".intercalate (st.tokens.map (Token.text store))

/-- Equality of the language, on tokens and on operators. -/
def equals (a b : Statement) : Bool := a.tokens == b.tokens && a.operators == b.operators

end Statement

end Scriptlet
