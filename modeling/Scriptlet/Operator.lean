set_option autoImplicit false

/-!
# Operators

Every operator stands between two operands and has a fixed priority; the separator is treated as
the operator of lowest priority.  Declarations write to a name instead of giving a value, and the
compound ones first combine the old value with the new one by their arithmetic `base?`.
-/

namespace Scriptlet

/-- An operator of the language. -/
inductive Operator where
  /-- a comma or a semicolon, between two statements of one line -/
  | separator
  /-- binds a name -/
  | declare
  /-- adds to a name -/
  | addTo
  /-- subtracts from a name -/
  | subTo
  /-- multiplies a name -/
  | mulTo
  /-- divides a name -/
  | divTo
  /-- compares two values -/
  | equal
  /-- compares two values, negated -/
  | unequal
  /-- addition, and the plus sign -/
  | add
  /-- subtraction, and the minus sign -/
  | sub
  /-- multiplication -/
  | mul
  /-- division -/
  | div
  /-- remainder -/
  | rem
  /-- power -/
  | pow
  deriving DecidableEq, Repr, Inhabited

namespace Operator

/-- Operators of higher priority are applied first. -/
def priority : Operator → Int
  | separator => -10
  | declare | addTo | subTo | mulTo | divTo => 10
  | equal | unequal => 15
  | add | sub => 20
  | mul | div => 30
  | rem => 40
  | pow => 60

/-- Whether the operator may stand without a left operand, zero taking its place. -/
def isSign : Operator → Bool
  | add | sub => true
  | _ => false

/-- Whether the operator writes to the name on its left. -/
def isDeclaration : Operator → Bool
  | declare | addTo | subTo | mulTo | divTo => true
  | _ => false

/-- The arithmetic a compound declaration performs. -/
def base? : Operator → Option Operator
  | addTo => some add
  | subTo => some sub
  | mulTo => some mul
  | divTo => some div
  | _ => none

/-- How the operator is written. -/
def symbol : Operator → String
  | separator => ","
  | declare => "="
  | addTo => "+="
  | subTo => "-="
  | mulTo => "*="
  | divTo => "/="
  | equal => "=="
  | unequal => "!="
  | add => "+"
  | sub => "-"
  | mul => "*"
  | div => "/"
  | rem => "%"
  | pow => "^"

/-- All operators. -/
def all : List Operator :=
  [separator, declare, addTo, subTo, mulTo, divTo, equal, unequal, add, sub, mul, div, rem, pow]

/-- The operator written as `text`. -/
def ofSymbol? (text : String) : Option Operator :=
  all.find? fun op => op.symbol == text

theorem ofSymbol?_symbol (op : Operator) : ofSymbol? op.symbol = some op := by
  cases op <;> decide

end Operator

end Scriptlet
