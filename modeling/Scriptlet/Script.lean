import Scriptlet.Input
import Scriptlet.Options
set_option autoImplicit false

/-!
# Scripts

A script is interpreted line by line in one scope.  After a failing line it stops or goes on, as
its options say; in the second case the failures are reported together at the end.  What is logged
about them on the way is left out.
-/

namespace Scriptlet

/-- Why a script stopped. -/
inductive ScriptFault where
  /-- a line failed -/
  | line (number : Nat) (fault : Fault)
  /-- there is no further line -/
  | exhausted (last : Nat)
  /-- reading failed -/
  | device (fault : DeviceFault)

/-- The wording of a script fault. -/
def ScriptFault.message : ScriptFault → String
  | line number fault => "error in line " ++ number.repr ++ ": " ++ fault.diagnostic.text
  | exhausted last => "no line left after line " ++ last.repr
  | device fault => fault.message

/-- How many lines were read, and which of them failed. -/
structure Report where
  lines : Nat
  failures : List (Nat × Fault)

namespace Report

/-- Whether no line failed. -/
def isSuccess (r : Report) : Bool := r.failures.isEmpty

/-- The JSON form of a report. -/
def toJson (r : Report) : String :=
  let failures := r.failures.map fun (number, fault) =>
    "\x7b\"line\":" ++ number.repr ++ ",\"error\":" ++ fault.diagnostic.toJson ++ "\x7d"
  "\x7b\"lines\":" ++ r.lines.repr ++ ",\"failures\":[" ++ ",".intercalate failures ++ "]\x7d"

end Report

/-- A script while it is interpreted. -/
structure Script where
  input : Input
  home : ScopeId
  options : Options
  /-- lines read so far -/
  line : Nat

namespace Script

/-- A script before its first line. -/
def start (input : Input) (home : ScopeId) (options : Options) : Script :=
  ⟨input, home, options, 0⟩

/-- The script after a line was read. -/
def afterLine (s : Script) (rest : Input) : Script := { s with input := rest, line := s.line + 1 }

/-- Interprets the next line and gives its values. -/
def next (s : Script) (store : Store) : Except ScriptFault (List Value) × Script × Store :=
  match s.input.readLine with
  | (.error fault, rest) => (.error (.device fault), { s with input := rest }, store)
  | (.ok none, rest) => (.error (.exhausted s.line), { s with input := rest }, store)
  | (.ok (some text), rest) =>
    match interpret s.options s.home (withoutLineEnd text) store with
    | (.ok values, after) => (.ok values, s.afterLine rest, after)
    | (.error fault, after) =>
      (.error (.line (s.line + 1) fault), s.afterLine rest, after)

/-- Interprets the lines that are left, after `count` lines of which some `failed`, the last of them
in front. -/
def runLines (s : Script) (count : Nat) (failed : List (Nat × Fault)) (store : Store) :
    List (Option String) → Except ScriptFault Report × Script × Store
  | [] => (.ok ⟨count, failed.reverse⟩, { s with input := .lines [] }, store)
  | none :: rest => (.error (.device .notText), { s with input := .lines rest }, store)
  | some text :: rest =>
    match interpret s.options s.home (withoutLineEnd text) store with
    | (.ok _, after) => (s.afterLine (.lines rest)).runLines (count + 1) failed after rest
    | (.error fault, after) =>
      match s.options.errorPolicy with
      | .continue =>
        (s.afterLine (.lines rest)).runLines (count + 1) ((s.line + 1, fault) :: failed) after rest
      | .abort => (.error (.line (s.line + 1) fault), s.afterLine (.lines rest), after)

/-- Interprets all further lines. -/
def all (s : Script) (store : Store) : Except ScriptFault Report × Script × Store :=
  match s.input with
  | .lines ahead => s.runLines 0 [] store ahead
  | .failing fault => (.error (.device fault), s, store)

end Script

end Scriptlet
