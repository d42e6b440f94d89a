import Scriptlet.Diagnostic
import Scriptlet.Number.Text
import Scriptlet.Operator
import Scriptlet.Text.Quoted
set_option autoImplicit false

/-!
# Faults

A fault is the cause of a failure, with what its message mentions.  Codes and wording are fixed
here, once for the whole language; positions count characters from the start of the text.

One fault stands for no failure at all.  A program that lists a range without an end does not come
to an answer, and `endless` takes the place of the answer; no other fault has its code.
-/

namespace Scriptlet

/-- Why a step failed. -/
inductive Fault where
  /-- reading was to start before the text -/
  | negativeStart (start : Int)
  /-- no token starts with this character -/
  | unexpectedChar (c : Char) (pos : Nat)
  /-- a separator was to follow nothing -/
  | chainEmpty
  /-- a separator was to follow an incomplete statement -/
  | chainIncomplete (tokens operators : Nat)
  /-- a separator was to follow a separator -/
  | chainTwice
  /-- a factorial does not follow a number -/
  | factorialOperand (pos : Nat)
  /-- the factorial of a number that has none here -/
  | factorialDomain (n : Float)
  /-- a block does not follow a gate -/
  | strayBlock (pos : Nat)
  /-- brackets do not hold exactly one value -/
  | bracketCount (pos count : Nat)
  /-- a call of something that is not a function -/
  | notFunction (name type : String)
  /-- a number with two points -/
  | twoPoints (pos : Nat)
  /-- a number without a digit -/
  | noDigits (pos : Nat)
  /-- the text ends inside a bracket -/
  | openBracket (closer : Char)
  /-- the text ends inside a block that is not run -/
  | openBlock (pos : Nat)
  /-- the text ends inside a string -/
  | openString (pos : Nat) (quote : Char)
  /-- a closing bracket without an opening one -/
  | strayClosing (c : Char) (pos : Nat)
  /-- more levels of brackets than allowed -/
  | tooDeep (limit : Nat)
  /-- a closing bracket of another kind than the opening one -/
  | closingMismatch (c : Char) (pos : Nat) (expected : Char)
  /-- an operator to apply is not among the tokens -/
  | operatorMissing (op : Operator)
  /-- nothing stands left of an operator that needs it -/
  | notSign (op : Operator)
  /-- what is left after all operators is not a row of values -/
  | irreducible (shown : String)
  /-- an operator that gives no value -/
  | noResult (op : Operator)
  /-- nothing stands right of an operator -/
  | rightMissing (op : Operator)
  /-- an operator stands where an operand should -/
  | operandIsOperator (op other : Operator)
  /-- a value was needed and an operator found -/
  | operatorIsNoValue (op : Operator)
  /-- more arguments than a function takes -/
  | argumentCount (name : String) (expected given : Nat)
  /-- a number of arguments that makes no range -/
  | rangeArguments (given : Nat)
  /-- a number of values that does not fit the fields of a structure -/
  | fieldCount (name : String) (expected given : Nat)
  /-- a structure has no such field -/
  | fieldMissing (name : String)
  /-- a dotted name goes through something that is not a namespace -/
  | notNamespace (name type : String)
  /-- a value of another type than needed -/
  | typeMismatch (expected found : String)
  /-- a number that is not a small natural number -/
  | notNatural (name : String) (n : Float)
  /-- a string that does not read as a number -/
  | unreadable (text type : String)
  /-- fewer arguments than a function takes -/
  | argumentMissing (name : String) (expected given : Nat)
  /-- the left operand of a declaration is not a name -/
  | notName (op : Operator)
  /-- a name without a value -/
  | unresolved (name : String)
  /-- a library that does not exist -/
  | unknownLibrary (name known : String)
  /-- a compound declaration of a name without a value -/
  | neverDeclared (name : String)
  /-- a list that would have no end -/
  | endless
  deriving DecidableEq

namespace Fault

/-- The code of a fault. -/
def code : Fault → Code
  | negativeStart .. => ⟨100, by decide⟩
  | unexpectedChar .. => ⟨110, by decide⟩
  | chainEmpty => ⟨120, by decide⟩
  | chainIncomplete .. => ⟨130, by decide⟩
  | chainTwice => ⟨140, by decide⟩
  | factorialOperand .. => ⟨150, by decide⟩
  | factorialDomain .. => ⟨151, by decide⟩
  | strayBlock .. => ⟨160, by decide⟩
  | bracketCount .. => ⟨170, by decide⟩
  | notFunction .. => ⟨180, by decide⟩
  | twoPoints .. => ⟨190, by decide⟩
  | noDigits .. => ⟨191, by decide⟩
  | openBracket .. | openBlock .. => ⟨192, by decide⟩
  | openString .. => ⟨193, by decide⟩
  | strayClosing .. => ⟨194, by decide⟩
  | tooDeep .. => ⟨195, by decide⟩
  | closingMismatch .. => ⟨197, by decide⟩
  | operatorMissing .. => ⟨200, by decide⟩
  | notSign .. => ⟨210, by decide⟩
  | irreducible .. | noResult .. => ⟨220, by decide⟩
  | rightMissing .. => ⟨230, by decide⟩
  | operandIsOperator .. | operatorIsNoValue .. => ⟨240, by decide⟩
  | argumentCount .. | rangeArguments .. | fieldCount .. => ⟨250, by decide⟩
  | fieldMissing .. => ⟨310, by decide⟩
  | notNamespace .. => ⟨328, by decide⟩
  | typeMismatch .. | notNatural .. | unreadable .. => ⟨350, by decide⟩
  | argumentMissing .. => ⟨360, by decide⟩
  | notName .. => ⟨370, by decide⟩
  | unresolved .. => ⟨380, by decide⟩
  | unknownLibrary .. => ⟨390, by decide⟩
  | neverDeclared .. => ⟨399, by decide⟩
  | endless => ⟨299, by decide⟩

/-- The wording of a fault. -/
def message : Fault → String
  | negativeStart start => s!"start index {start} must not be negative"
  | unexpectedChar c pos => s!"could not parse char '{c}' at {pos}"
  | chainEmpty => "can not chain before anything was parsed"
  | chainIncomplete tokens operators =>
    s!"{tokens} tokens do not fit {operators} operators, expected {2 * operators + 1}"
  | chainTwice => "can not chain again before another statement was parsed"
  | factorialOperand pos => s!"factorial at {pos} has no numeric value before it"
  | factorialDomain n =>
    s!"factorial needs a natural number up to {Number.factorialLimit}, got {Number.text n}"
  | strayBlock pos => s!"block at {pos} does not follow an introducer"
  | bracketCount pos count => s!"brackets at {pos} wrap {count} values, expected one"
  | notFunction name type => s!"{name} is a {type}, not a function"
  | twoPoints pos => s!"number at {pos} can not have two dots"
  | noDigits pos => s!"number at {pos} has no digits"
  | openBracket closer => s!"bracket was never closed, expected '{closer}'"
  | openBlock pos => s!"block at {pos} was never closed, expected '\x7d'"
  | openString pos quote => s!"string at {pos} is never closed, expected {quote}"
  | strayClosing c pos => s!"'{c}' at {pos} closes nothing"
  | tooDeep limit => s!"nesting deeper than {limit} levels"
  | closingMismatch c pos expected =>
    s!"closing '{c}' at {pos} does not match, expected '{expected}'"
  | operatorMissing op => s!"operator '{op.symbol}' must be present in tokens"
  | notSign op => s!"operator '{op.symbol}' is not a sign and requires a left and right value"
  | irreducible shown => s!"statement did not reduce to values: {shown}"
  | noResult op => s!"operator '{op.symbol}' does not produce a value"
  | rightMissing op => s!"a right value must exist for '{op.symbol}'"
  | operandIsOperator op other =>
    s!"operator '{op.symbol}' requires values on both sides, got '{other.symbol}'"
  | operatorIsNoValue op => s!"expected a value, got operator '{op.symbol}'"
  | argumentCount name expected given => s!"{name} takes {expected} argument(s), got {given}"
  | rangeArguments given => s!"range takes 1 or 3 arguments, got {given}"
  | fieldCount name expected given => s!"{name} takes {expected} value(s), got {given}"
  | fieldMissing name => s!"can not access {name}, field missing"
  | notNamespace name type => s!"{name} is a {type}, not a namespace"
  | typeMismatch expected found => s!"expected {expected}, got {found}"
  | notNatural name n =>
    s!"{name} expects a natural number up to {Number.factorialLimit}, got {Number.text n}"
  | unreadable text type => s!"can not read {quoted text} as {type}"
  | argumentMissing name expected given =>
    s!"{name} is missing argument {given + 1} of {expected}"
  | notName op => s!"left side of '{op.symbol}' must be a name"
  | unresolved name => s!"no value for {name}"
  | unknownLibrary name known => s!"no library named {name}, expected one of: {known}"
  | neverDeclared name => s!"can not change {name}, it was never declared"
  | endless => "can not list a range without an end"

/-- The list without an end is not mistaken for a failure. -/
theorem code_eq_code_endless_iff (fault : Fault) : fault.code = endless.code ↔ fault = .endless := by
  cases fault <;> simp [code]

/-- The fault as it is reported. -/
def diagnostic (fault : Fault) : Diagnostic := .ofCode fault.code fault.message

end Fault

end Scriptlet
