import Scriptlet.Console
import Scriptlet.Path
import Scriptlet.Script
set_option autoImplicit false

/-!
# The command line

The program evaluates one expression, runs a script, or starts an interactive session.  Its
arguments are read from left to right; the first one that asks for the version or for help, or that
cannot be understood, decides.

What a run logs is left out: the runs are those with logging off, and the option that asks for more
of it is read and changes nothing.
-/

namespace Scriptlet.CommandLine

/-! ## Arguments -/

/-- What the arguments ask for. -/
structure Arguments where
  file : Option String := none
  expression : Option String := none
  keepGoing : Bool := false
  maxDepth : Option Nat := none
  json : Bool := false
  deriving DecidableEq, Repr

/-- Why reading the arguments stops early. -/
inductive Stop where
  /-- the version is asked for -/
  | version
  /-- help is asked for -/
  | help
  /-- the arguments cannot be understood -/
  | misuse
  deriving DecidableEq, Repr

/-- An option that takes a value. -/
inductive Valued where
  | expression
  | maxDepth
  deriving DecidableEq, Repr

/-- A natural number below `2 ^ 64`, with an optional plus sign. -/
def readCount? (text : List Char) : Option Nat :=
  let digits :=
    match text with
    | '+' :: rest => rest
    | _ => text
  if digits.isEmpty || !digits.all Char.isDigit then none
  else
    let n := Number.digitsValue digits
    if n < UInt64.size then some n else none

namespace Arguments

/-- Sets an option that takes a value; it may be given once. -/
def setValue (a : Arguments) (option : Valued) (value : List Char) : Except Stop Arguments :=
  match option with
  | .expression =>
    if a.expression.isSome then .error .misuse
    else .ok { a with expression := some (String.ofList value) }
  | .maxDepth =>
    match a.maxDepth, readCount? value with
    | none, some n => .ok { a with maxDepth := some n }
    | _, _ => .error .misuse

/-- Sets the file; it may be given once and not empty. -/
def setFile (a : Arguments) (path : List Char) : Except Stop Arguments :=
  if a.file.isSome || path.isEmpty then .error .misuse
  else .ok { a with file := some (String.ofList path) }

/-- Sets an option without a value by its long name.  It may be given once, except for the one that
asks for more logging. -/
def setFlag (a : Arguments) (name : String) : Except Stop Arguments :=
  match name with
  | "keep-going" => if a.keepGoing then .error .misuse else .ok { a with keepGoing := true }
  | "json" => if a.json then .error .misuse else .ok { a with json := true }
  | "verbose" => .ok a
  | "version" => .error .version
  | "help" => .error .help
  | _ => .error .misuse

end Arguments

/-- The option with a value that a long name stands for. -/
def valued? : String → Option Valued
  | "eval" => some .expression
  | "max-depth" => some .maxDepth
  | _ => none

/-- Reads a long option behind its dashes.  An option whose value is not joined to it by an equals
sign waits for the next argument. -/
def readLong (a : Arguments) (text : List Char) : Except Stop (Arguments × Option Valued) :=
  let name := String.ofList (text.takeWhile (· != '='))
  match text.dropWhile (· != '='), valued? name with
  | [], some option => .ok (a, some option)
  | [], none => (a.setFlag name).map (·, none)
  | _ :: value, some option => (a.setValue option value).map (·, none)
  | _ :: _, none => .error .misuse

/-- Reads short options behind their dash.  What follows the letter of an option with a value is
the value, with or without an equals sign between. -/
def readShort (a : Arguments) : List Char → Except Stop (Arguments × Option Valued)
  | [] => .ok (a, none)
  | 'v' :: rest => readShort a rest
  | ['e'] => .ok (a, some .expression)
  | 'e' :: '=' :: value => (a.setValue .expression value).map (·, none)
  | 'e' :: value => (a.setValue .expression value).map (·, none)
  | 'V' :: _ => .error .version
  | 'h' :: _ => .error .help
  | _ :: _ => .error .misuse

/-- Whether an argument is an option: a dash alone is none. -/
def isOption : List Char → Bool
  | '-' :: _ :: _ => true
  | _ => false

/-- Reads arguments that are all files. -/
def readFiles (a : Arguments) : List (List Char) → Except Stop Arguments
  | [] => .ok a
  | path :: rest => do
    readFiles (← a.setFile path) rest

/-- Reads arguments; `waiting` is an option that takes the next one as its value. -/
def readFrom (a : Arguments) (waiting : Option Valued) :
    List (List Char) → Except Stop Arguments
  | [] => if waiting.isSome then .error .misuse else .ok a
  | arg :: rest =>
    match waiting with
    | some option => do
      if isOption arg then .error .misuse
      else readFrom (← a.setValue option arg) none rest
    | none =>
      match arg with
      | ['-', '-'] => readFiles a rest
      | '-' :: '-' :: long => do
        let (next, option) ← readLong a long
        readFrom next option rest
      | '-' :: c :: short => do
        let (next, option) ← readShort a (c :: short)
        readFrom next option rest
      | path => do
        readFrom (← a.setFile path) none rest

/-- Reads all arguments.  An expression and a file exclude each other. -/
def read (args : List String) : Except Stop Arguments := do
  let a ← readFrom {} none (args.map String.toList)
  if a.expression.isSome && a.file.isSome then .error .misuse else return a

/-- The options of a run. -/
def Arguments.options (a : Arguments) : Options :=
  { errorPolicy := if a.keepGoing then .continue else .abort
    errorFormat := if a.json then .json else .text
    maxDepth := a.maxDepth.getD defaultMaxDepth }

/-! ## Runs -/

/-- How a run ends: its exit code, and what it wrote to its two outputs. -/
structure Exit where
  code : UInt32
  stdout : String
  stderr : String
  deriving DecidableEq, Repr

/-- The scope a program runs in, and the store that holds it. -/
def freshScope (file : Option String) : ScopeId × Store := Library.scope file .empty

/-- Evaluates one expression and writes its values. -/
def runExpression (options : Options) (expression : String) : Exit :=
  let (home, store) := freshScope none
  match interpret options home expression store with
  | (.ok values, after) =>
    let shown := Console.answer options (.ok values) after
    ⟨0, after.sink.written ++ shown, ""⟩
  | (.error fault, after) =>
    ⟨1, after.sink.written, options.errorFormat.render fault.diagnostic ++ "\n"⟩

/-- A failing line as a script run shows it. -/
def lineMessage (format : ErrorFormat) (number : Nat) (fault : Fault) : String :=
  "line " ++ number.repr ++ ": " ++ format.render fault.diagnostic ++ "\n"

/-- Runs a script that was opened, or could not be, under a path. -/
def runScript (options : Options) (path absolute : String) (opened : Except DeviceFault Input) :
    Exit :=
  match opened with
  | .error fault => ⟨1, "", path ++ ": " ++ fault.message ++ "\n"⟩
  | .ok input =>
    let (home, store) := freshScope (some absolute)
    match (Script.start input home options).all store with
    | (.ok report, _, after) =>
      if report.isSuccess then ⟨0, after.sink.written, ""⟩
      else
        match options.errorFormat with
        | .json => ⟨1, after.sink.written, report.toJson ++ "\n"⟩
        | .text =>
          let lines := report.failures.map fun (number, fault) =>
            lineMessage options.errorFormat number fault
          ⟨1, after.sink.written, "".intercalate lines⟩
    | (.error (.line number fault), _, after) =>
      ⟨1, after.sink.written, lineMessage options.errorFormat number fault⟩
    | (.error other, _, after) =>
      ⟨1, after.sink.written, path ++ ": " ++ other.message ++ "\n"⟩

/-- One turn of a session whose lines print to the same output: the text of the turn, and the
store without what was printed. -/
def turnText (turn : Turn) (store : Store) : String × Store :=
  let (printed, rest) := store.takePrinted
  (turn.prompt ++ printed ++ turn.answer, rest)

/-- How a session ends that could not go on. -/
def sessionEnded (fault : DeviceFault) : String := "session ended: " ++ fault.message ++ "\n"

/-- Turn after turn of a session whose lines print to the same output. -/
def converse (console : Console) (store : Store) : Exit :=
  match _taken : console.next store with
  | (turn, rest, after) =>
    let (text, after) := turnText turn after
    match _going : turn.goesOn with
    | .error fault => ⟨1, text, sessionEnded fault⟩
    | .ok false => ⟨0, text, ""⟩
    | .ok true =>
      let last := converse rest after
      { last with stdout := text ++ last.stdout }
termination_by console.input.remaining
decreasing_by exact Console.next_shorter _taken _going

/-- Starts a session on the input. -/
def runSession (options : Options) (input : Input) : Exit :=
  let (home, store) := freshScope none
  converse (.start input home options false) store

/-- The text of the version. -/
def version : String := "vis 0.1.1\n"

/-- The text that explains the arguments. -/
def usage : String :=
  "Usage: vis [OPTIONS] [FILE]\n\n" ++
  "Arguments:\n" ++
  "  [FILE]  Script to run line by line (starts an interactive session if omitted)\n\n" ++
  "Options:\n" ++
  "  -e, --eval <EXPR>    Evaluate one expression and print its results\n" ++
  "      --keep-going     Keep running a script after a failing line\n" ++
  "      --max-depth <N>  Deepest allowed nesting of brackets, arrays, calls and blocks\n" ++
  "      --json           Print errors as JSON\n" ++
  "  -v, --verbose...     Log more\n" ++
  "  -h, --help           Print help\n" ++
  "  -V, --version        Print version\n"

/-- The run that ends before it starts. -/
def Stop.exit : Stop → Exit
  | version => ⟨0, CommandLine.version, ""⟩
  | help => ⟨0, usage, ""⟩
  | misuse => ⟨2, "", usage⟩

/-- A whole run: `current` is the path of the present folder, `opened` what opening a path gives,
and `input` what an interactive session reads. -/
def run (args : List String) (current : String) (opened : String → Except DeviceFault Input)
    (input : Input) : Exit :=
  match read args with
  | .error stop => stop.exit
  | .ok a =>
    match a.expression, a.file with
    | some expression, _ => runExpression a.options expression
    | none, some path => runScript a.options path (Path.absolute current path) (opened path)
    | none, none => runSession a.options input

end Scriptlet.CommandLine
