set_option autoImplicit false

/-!
# Diagnostics

A diagnostic is what a failure looks like from outside: a kind, a numeric code and a message.  Each
kind owns a hundred codes.  A diagnostic built from a code takes its kind from the code; one that
was read from elsewhere keeps the kind it came with.
-/

namespace Scriptlet

/-- What went wrong, in the large. -/
inductive FaultKind where
  /-- the text is malformed -/
  | parsing
  /-- the tokens cannot be reduced to values -/
  | evaluation
  /-- a name, a field or a value of some type is not there -/
  | access
  deriving DecidableEq, Repr, Inhabited

namespace FaultKind

/-- The first and the last code of the kind. -/
def codes : FaultKind → Nat × Nat
  | parsing => (100, 199)
  | evaluation => (200, 299)
  | access => (300, 399)

/-- How the kind is shown. -/
def title : FaultKind → String
  | parsing => "ParsingError"
  | evaluation => "EvaluationError"
  | access => "AccessError"

/-- How the kind is encoded. -/
def key : FaultKind → String
  | parsing => "parsing"
  | evaluation => "evaluation"
  | access => "access"

/-- The kind encoded as `text`. -/
def ofKey? (text : String) : Option FaultKind :=
  [parsing, evaluation, access].find? fun kind => kind.key == text

theorem ofKey?_key (kind : FaultKind) : ofKey? kind.key = some kind := by
  cases kind <;> decide

end FaultKind

/-- A code, between 100 and 399. -/
structure Code where
  number : Nat
  bounds : 100 ≤ number ∧ number ≤ 399 := by decide
  deriving DecidableEq, Repr

namespace Code

/-- The code of a number in the range of codes. -/
def ofNat? (n : Nat) : Option Code :=
  if h : 100 ≤ n ∧ n ≤ 399 then some ⟨n, h⟩ else none

/-- The code of a number among those of one kind. -/
def ofKind? (kind : FaultKind) (n : Nat) : Option Code :=
  if kind.codes.1 ≤ n ∧ n ≤ kind.codes.2 then ofNat? n else none

/-- Why a number is not a code. -/
def refusal (n : Nat) : String := "error code " ++ n.repr ++ " is outside 100..=399"

/-- The kind that owns the code. -/
def kind (c : Code) : FaultKind :=
  if c.number < 200 then .parsing else if c.number < 300 then .evaluation else .access

end Code

/-- A failure as it is reported. -/
structure Diagnostic where
  kind : FaultKind
  code : Code
  message : String
  deriving DecidableEq, Repr

namespace Diagnostic

/-- The diagnostic of a code, of the kind that owns the code. -/
def ofCode (code : Code) (message : String) : Diagnostic := ⟨code.kind, code, message⟩

/-- The one-line text of a diagnostic. -/
def text (d : Diagnostic) : String :=
  d.kind.title ++ " [" ++ d.code.number.repr ++ "]: " ++ d.message

end Diagnostic

end Scriptlet
