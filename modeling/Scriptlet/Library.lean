import Scriptlet.Token
import Scriptlet.Number.Reading
import Scriptlet.Text.Blank
set_option autoImplicit false

/-!
# The library

Every program runs in a scope of its own above a scope with the built-in functions, so it may
declare a name of the library without changing it for anyone else.  Each such scope, and each
loaded library, is made anew, with routines of its own.
-/

namespace Scriptlet

/-- A library that scopes are made from: where it prints, and the path of the script it is for. -/
structure Library where
  output : Output := .standard
  file : Option String := none
  deriving DecidableEq, Repr

namespace Library

/-! ## Arguments -/

/-- The fault of a call with another number of arguments than expected. -/
def countFault (name : String) (expected given : Nat) : Fault :=
  if given < expected then .argumentMissing name expected given
  else .argumentCount name expected given

/-- Requires one argument. -/
def single (name : String) : List Value → Except Fault Value
  | [value] => .ok value
  | args => .error (countFault name 1 args.length)

/-- Requires two arguments. -/
def pair (name : String) : List Value → Except Fault (Value × Value)
  | [first, second] => .ok (first, second)
  | args => .error (countFault name 2 args.length)

/-- Requires a whole number from zero up to the largest with a finite factorial. -/
def natural (name : String) (value : Value) : Except Fault Nat := do
  let n ← value.asNumber
  match Number.natural? Number.factorialLimit n with
  | some k => .ok k
  | none => .error (.notNatural name n)

/-! ## Functions without effect -/

/-- The function of one real variable. -/
def realFunction : RealFunction → Float → Float
  | .sin => Float.sin
  | .cos => Float.cos
  | .tan => Float.tan
  | .asin => Float.asin
  | .acos => Float.acos
  | .atan => Float.atan
  | .sqrt => Float.sqrt
  | .abs => Float.abs
  | .signum => Number.signum

/-- A range from its stop alone, or from its start, step and stop. -/
def makeRange : List Value → Except Fault Value
  | [stop] => do
    return .range ⟨0, 1, ← stop.asInt⟩
  | [start, step, stop] => do
    return .range ⟨← start.asInt, ← step.asInt, ← stop.asInt⟩
  | args => .error (.rangeArguments args.length)

/-- A whole number: read from a string, or the integer part of a number. -/
def toInt : Value → Except Fault Value
  | .string s =>
    match Number.readInt64? (trimBlank s.toList) with
    | some n => .ok (.number (Float.ofInt n.toInt))
    | none => .error (.unreadable s "int")
  | other => do
    return .number (Float.ofInt (← other.asInt).toInt)

/-- A number: read from a string, or as it is. -/
def toFloat : Value → Except Fault Value
  | .string s =>
    match Number.read? (trimBlank s.toList) with
    | some n => .ok (.number n)
    | none => .error (.unreadable s "float")
  | other => do
    return .number (← other.asNumber)

/-- Whether all arguments are true; each must be a truth value. -/
def allTrue : List Value → Except Fault Bool
  | [] => .ok true
  | arg :: rest => do
    let first ← arg.asBool
    let others ← allTrue rest
    return first && others

/-- The names of the fields of a structure. -/
def fieldNames : List Value → Except Fault (List String)
  | [] => .ok []
  | arg :: rest => do
    let first ← arg.asString
    let others ← fieldNames rest
    return first :: others

/-- The items of a range, an array or a string. -/
def items : Value → Except Fault (List Value)
  | .range r =>
    match r.toList? with
    | some numbers => .ok (numbers.map fun n => .number (Float.ofInt n.toInt))
    | none => .error .endless
  | .array values => .ok values
  | .string s => .ok (s.toList.map fun c => .string (String.singleton c))
  | other => .error (.typeMismatch "range or array" other.typeName)

/-- The number of items of an array or of characters of a string. -/
def count : Value → Except Fault Nat
  | .array values => .ok values.length
  | .string s => .ok s.length
  | other => .error (.typeMismatch "array or string" other.typeName)

/-! ## Libraries to load -/

/-- The names of the libraries that can be loaded. -/
def names : List String := ["math"]

/-- The mathematical functions. -/
def mathFunctions : List Builtin :=
  [.real .sin, .real .cos, .real .tan, .real .asin, .real .acos, .real .atan, .real .sqrt,
    .real .abs, .real .signum, .hypotenuse, .factorial, .binomial]

/-- The mathematical constants. -/
def mathConstants : List (String × Value) :=
  [("pi", .number 3.141592653589793), ("e", .number 2.718281828459045),
    ("tau", .number 6.283185307179586)]

/-- All built-in functions. -/
def functions (output : Output) : List Builtin :=
  [.range, .typeOf, .text, .int, .float, .print output, .load, .gate, .structureOf, .list,
    .length] ++ mathFunctions

/-- Built-in functions under their names, with identities from `first` on. -/
def bindings (first : Nat) (builtins : List Builtin) : List (String × Value) :=
  builtins.zipIdx.map fun (builtin, i) =>
    (builtin.name, .routine ⟨first + i, .builtin builtin⟩)

/-- A new scope that holds built-in functions and the mathematical constants. -/
def install (label : String) (builtins : List Builtin) (store : Store) : ScopeId × Store :=
  { store with routines := store.routines + builtins.length }.addScope
    { label := some label
      bindings := .ofList (bindings store.routines builtins ++ mathConstants)
      parent := none
      fixed := false }
    (Scope.parentBelow_of_root rfl _)

/-- A new instance of a library. -/
def load (name : String) : Action ScopeId :=
  if name ∈ names then .create (install name mathFunctions)
  else .fail (.unknownLibrary name (", ".intercalate names))

/-- A library that prints to an output of its own. -/
def withOutput (broken : Bool) (store : Store) : Library × Store :=
  let (output, store) := store.openOutput broken
  ({ output }, store)

/-- A new scope that holds all built-in functions. -/
def newBuiltins (library : Library) (store : Store) : ScopeId × Store :=
  install "builtins" (functions library.output) store

/-- The scope of the built-in functions can be a parent from now on. -/
theorem parentBelow_newBuiltins (library : Library) (store : Store) {scope : Scope}
    (parent : scope.parent = some (library.newBuiltins store).1) :
    scope.ParentBelow (library.newBuiltins store).2.scopes.size := by
  intro up above
  cases parent.symm.trans above
  simp [newBuiltins, install, Store.addScope]

/-- The name under which a script finds its own path. -/
def fileName : String := "__file__"

/-- A new scope for a program, above built-in functions of its own; a script also finds its path
in it. -/
def newScope (library : Library) (store : Store) : ScopeId × Store :=
  let below := library.newBuiltins store
  below.2.addScope
    { label := none
      bindings := .ofList (library.file.toList.map fun path => (fileName, .string path))
      parent := some below.1
      fixed := false }
    (library.parentBelow_newBuiltins store rfl)

/-- A new scope with all built-in functions, which print to the standard output. -/
def builtins (store : Store) : ScopeId × Store := newBuiltins {} store

/-- A new scope for a program that prints to the standard output. -/
def scope (file : Option String) (store : Store) : ScopeId × Store := newScope { file } store

/-- A new routine, with an identity of its own. -/
def newRoutine (behaviour : Behaviour) (store : Store) : Routine × Store :=
  (⟨store.routines, behaviour⟩, { store with routines := store.routines + 1 })

/-- Writes values as one line of an output. -/
def print (output : Output) (args : List Value) : Action Unit := fun store =>
  (.ok (), store.writeLine (" ".intercalate (store.valueTexts args)) output)

/-! ## Calls -/

/-- Calls a built-in function from the scope `caller`. -/
def callBuiltin (builtin : Builtin) (caller : ScopeId) (args : List Value) : Action Value :=
  match builtin with
  | .range => .ofExcept (makeRange args)
  | .typeOf => .ofExcept do
    let value ← single "type" args
    return .string value.typeName
  | .text => .ask fun store => do
    let value ← single "str" args
    return .string (store.valueText value)
  | .int => .ofExcept do
    toInt (← single "int" args)
  | .float => .ofExcept do
    toFloat (← single "float" args)
  | .print output => do
    print output args
    return .array args
  | .load => do
    let value ← Action.ofExcept (single "import" args)
    let name ← Action.ofExcept value.asString
    let library ← load name
    declare caller name (.scope library)
    return .scope library
  | .gate => .ofExcept do
    return .bool (← allTrue args)
  | .structureOf => do
    let fields ← Action.ofExcept (fieldNames args)
    let maker ← Action.create (newRoutine (.instantiate fields))
    return .routine maker
  | .list => .ofExcept do
    return .array (← items (← single "list" args))
  | .length => .ofExcept do
    return .number (Float.ofNat (← count (← single "len" args)))
  | .real f => .ofExcept do
    let value ← single f.name args
    return .number (realFunction f (← value.asNumber))
  | .hypotenuse => .ofExcept do
    let (x, y) ← pair "hypot" args
    return .number (Number.hypotenuse (← x.asNumber) (← y.asNumber))
  | .factorial => .ofExcept do
    let value ← single "fac" args
    return .number (Number.factorial (← natural "fac" value))
  | .binomial => .ofExcept do
    let (n, k) ← pair "binom" args
    return .number (Number.binomial (← natural "binom" n) (← natural "binom" k))

/-- Makes a structure instance; there must be one value for each field. -/
def instantiate (name : String) (fields : List String) (values : List Value) : Action Value :=
  if values.length = fields.length then do
    let made ← Action.create fun store => store.newInstance (fields.zip values)
    return .scope made
  else .fail (.fieldCount name fields.length values.length)

end Library

/-- Calls a routine with evaluated arguments from the scope `caller`. -/
def Routine.call (r : Routine) (caller : ScopeId) (args : List Value) : Action Value :=
  match r.behaviour with
  | .builtin builtin => Library.callBuiltin builtin caller args
  | .instantiate fields => Library.instantiate r.name fields args

end Scriptlet
