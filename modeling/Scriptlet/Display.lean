import Scriptlet.Store
set_option autoImplicit false

/-!
# How values are shown

A structure instance shows its fields.  A field may lead back to its own instance, directly or
through arrays, so inside a field every scope is shown by the same short text; showing a value
therefore looks into one instance at most.
-/

namespace Scriptlet

/-- Items between brackets, with commas. -/
def bracketed (items : List String) : String := "[" ++ ", ".intercalate items ++ "]"

/-- The text of a routine. -/
def Routine.text (r : Routine) : String := "<function " ++ r.name ++ ">"

/-- The text of a truth value. -/
def truthText (b : Bool) : String := if b then "true" else "false"

mutual

/-- The text of a value inside a field of a structure instance. -/
def Value.fieldText : Value → String
  | .number n => Number.text n
  | .bool b => truthText b
  | .string s => s
  | .array items => bracketed (Value.fieldTexts items)
  | .range r => r.text
  | .routine r => r.text
  | .scope _ => "<namespace>"

/-- The texts of values inside a field. -/
def Value.fieldTexts : List Value → List String
  | [] => []
  | v :: rest => v.fieldText :: Value.fieldTexts rest

end

/-- The text of a scope: the fields of an instance, the label of any other scope. -/
def Scope.text (scope : Scope) : String :=
  if scope.fixed then
    let fields := scope.bindings.entries.map fun entry => entry.1 ++ ": " ++ entry.2.fieldText
    "\x7b" ++ ", ".intercalate fields ++ "\x7d"
  else
    match scope.label with
    | some label => "<namespace " ++ label ++ ">"
    | none => "<namespace>"

namespace Store

/-- The text of the scope with this identity. -/
def scopeText (s : Store) (id : ScopeId) : String :=
  match s.scope? id with
  | some scope => scope.text
  | none => "<namespace>"

mutual

/-- The text of a value. -/
def valueText (s : Store) : Value → String
  | .number n => Number.text n
  | .bool b => truthText b
  | .string text => text
  | .array items => bracketed (valueTexts s items)
  | .range r => r.text
  | .routine r => r.text
  | .scope id => s.scopeText id

/-- The texts of values. -/
def valueTexts (s : Store) : List Value → List String
  | [] => []
  | v :: rest => valueText s v :: valueTexts s rest

end

/-- What a scope is like, for a reader who looks into it. -/
def describeScope (s : Store) (id : ScopeId) : String :=
  let label :=
    match s.label? id with
    | some label => "Some(" ++ quoted label ++ ")"
    | none => "None"
  "Namespace \x7b label: " ++ label ++ ", names: " ++ bracketed ((s.names id).map quoted) ++
    ", fixed: " ++ truthText (s.isInstance id) ++ " \x7d"

end Store

/-- What a routine is like, for a reader who looks into it. -/
def Routine.describe (r : Routine) : String :=
  "Callable \x7b name: " ++ quoted r.name ++ ", kind: " ++
    (if r.isGate then "Introducer" else "Function") ++ " \x7d"

end Scriptlet
