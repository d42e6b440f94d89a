import Scriptlet.Fault
import Scriptlet.Number.Arithmetic
import Scriptlet.Range
import Scriptlet.Routine
set_option autoImplicit false

/-!
# Values

The closed set of things a statement can reduce to.  Libraries and structure instances are scopes
of the store, so a value of that type is only the identity of a scope.  Equality is that of the
language: numbers by their value, so that a NaN differs from itself, and routines and scopes by
identity.
-/

namespace Scriptlet

/-- The identity of a scope in the store. -/
structure ScopeId where
  index : Nat
  deriving DecidableEq, Repr

/-- A value of the language. -/
inductive Value where
  | number (n : Float)
  | bool (b : Bool)
  | string (s : String)
  | array (items : List Value)
  | range (r : Range)
  | routine (r : Routine)
  | scope (id : ScopeId)

namespace Value

instance : Inhabited Value := ⟨.bool false⟩

/-- The name of a value's type. -/
def typeName : Value → String
  | number _ => "number"
  | bool _ => "bool"
  | string _ => "string"
  | array _ => "array"
  | range _ => "range"
  | routine _ => "function"
  | scope _ => "namespace"

/-! ## Equality -/

mutual

/-- Whether two values are equal in the language. -/
def equals : Value → Value → Bool
  | number a, number b => a == b
  | bool a, bool b => a == b
  | string a, string b => a == b
  | array a, array b => allEqual a b
  | range a, range b => a == b
  | routine a, routine b => a.id == b.id
  | scope a, scope b => a == b
  | _, _ => false

/-- Whether two lists have the same length and equal items. -/
def allEqual : List Value → List Value → Bool
  | [], [] => true
  | a :: as, b :: bs => a.equals b && allEqual as bs
  | _, _ => false

end

instance : BEq Value := ⟨equals⟩

/-! ## Access by type -/

/-- The number a value is. -/
def asNumber : Value → Except Fault Float
  | number n => .ok n
  | other => .error (.typeMismatch "number" other.typeName)

/-- The integer part of the number a value is. -/
def asInt (v : Value) : Except Fault Int64 := v.asNumber.map Number.truncate

/-- The truth value a value is. -/
def asBool : Value → Except Fault Bool
  | bool b => .ok b
  | other => .error (.typeMismatch "bool" other.typeName)

/-- The text a value is. -/
def asString : Value → Except Fault String
  | string s => .ok s
  | other => .error (.typeMismatch "string" other.typeName)

/-- The items of the array a value is. -/
def asArray : Value → Except Fault (List Value)
  | array items => .ok items
  | other => .error (.typeMismatch "array" other.typeName)

/-- The scope a value is. -/
def asScope : Value → Except Fault ScopeId
  | scope id => .ok id
  | other => .error (.typeMismatch "namespace" other.typeName)

/-- The routine a value is. -/
def asRoutine : Value → Except Fault Routine
  | routine r => .ok r
  | other => .error (.typeMismatch "function" other.typeName)

end Value

/-! ## Operators on values -/

/-- The arithmetic of an operator on two values that must both be numbers; the left one is checked
first. -/
def arithmetic (f : Float → Float → Float) (left right : Value) : Except Fault Value :=
  match left.asNumber with
  | .error fault => .error fault
  | .ok a =>
    match right.asNumber with
    | .error fault => .error fault
    | .ok b => .ok (.number (f a b))

/-- The value an operator gives for two operands.  Separators and declarations give none. -/
def Operator.apply (op : Operator) (left right : Value) : Except Fault Value :=
  match op with
  | equal => .ok (.bool (left == right))
  | unequal => .ok (.bool (left != right))
  | add => arithmetic (· + ·) left right
  | sub => arithmetic (· - ·) left right
  | mul => arithmetic (· * ·) left right
  | div => arithmetic (· / ·) left right
  | rem => arithmetic Number.remainder left right
  | pow => arithmetic Float.pow left right
  | separator | declare | addTo | subTo | mulTo | divTo => .error (.noResult op)

end Scriptlet
