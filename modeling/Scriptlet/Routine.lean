set_option autoImplicit false

/-!
# Routines

The functions of the language are built in, or make instances of a structure.  A routine is one of
these behaviours under an identity of its own: two routines are the same only when they were made
together, however alike they behave.
-/

namespace Scriptlet

/-- Functions of one real variable. -/
inductive RealFunction where
  | sin | cos | tan | asin | acos | atan | sqrt | abs | signum
  deriving DecidableEq, Repr

/-- Where a library prints. -/
inductive Output where
  /-- the standard output -/
  | standard
  /-- one of the outputs that were opened besides -/
  | other (index : Nat)
  deriving DecidableEq, Repr

/-- The functions every scope starts with. -/
inductive Builtin where
  /-- makes a range -/
  | range
  /-- names the type of a value -/
  | typeOf
  /-- shows a value as a string -/
  | text
  /-- reads or cuts to a whole number -/
  | int
  /-- reads a number -/
  | float
  /-- writes its arguments as a line of an output -/
  | print (output : Output)
  /-- loads a library and binds it -/
  | load
  /-- tells whether all its arguments hold, and may be followed by a block -/
  | gate
  /-- makes a routine for the instances of a structure -/
  | structureOf
  /-- lists the items of a range, an array or a string -/
  | list
  /-- counts the items of an array or a string -/
  | length
  /-- a function of one real variable -/
  | real (f : RealFunction)
  /-- the hypotenuse over two legs -/
  | hypotenuse
  /-- the factorial -/
  | factorial
  /-- the binomial coefficient -/
  | binomial
  deriving DecidableEq, Repr

/-- What a routine does when it is called. -/
inductive Behaviour where
  /-- a built-in function -/
  | builtin (b : Builtin)
  /-- makes a structure instance with these fields -/
  | instantiate (fields : List String)
  deriving DecidableEq, Repr

/-- A value that can be called, with its identity. -/
structure Routine where
  id : Nat
  behaviour : Behaviour
  deriving DecidableEq, Repr

/-- The name of a real function. -/
def RealFunction.name : RealFunction → String
  | sin => "sin"
  | cos => "cos"
  | tan => "tan"
  | asin => "asin"
  | acos => "acos"
  | atan => "atan"
  | sqrt => "sqrt"
  | abs => "abs"
  | signum => "signum"

/-- The name a built-in function is bound to. -/
def Builtin.name : Builtin → String
  | range => "range"
  | typeOf => "type"
  | text => "str"
  | int => "int"
  | float => "float"
  | print _ => "print"
  | load => "import"
  | gate => "if"
  | structureOf => "struct"
  | list => "list"
  | length => "len"
  | real f => f.name
  | hypotenuse => "hypot"
  | factorial => "fac"
  | binomial => "binom"

/-- The name of a behaviour; that of an instance maker lists the fields. -/
def Behaviour.name : Behaviour → String
  | builtin b => b.name
  | instantiate fields => "struct(" ++ ", ".intercalate fields ++ ")"

namespace Routine

/-- The name a routine is shown by. -/
def name (r : Routine) : String := r.behaviour.name

/-- Whether a block may follow a call. -/
def isGate (r : Routine) : Bool := r.behaviour == .builtin .gate

end Routine

end Scriptlet
