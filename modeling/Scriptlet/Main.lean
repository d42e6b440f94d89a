import Scriptlet.CommandLine
set_option autoImplicit false

/-!
# The program

Reads arguments, files and lines from the system, and writes what a run gives back.
-/

namespace Scriptlet.CommandLine

/-- Opens the file a path leads to. -/
def openPath (path : String) : IO (Except DeviceFault Input) := do
  try
    let bytes ← IO.FS.readBinFile path
    return .ok (.ofBytes bytes.toList)
  catch
    | .noFileOrDirectory .. => return .error .notFound
    | .inappropriateType .. => return .ok (.failing .isFolder)
    | error => return .error (.other (toString error))

/-- Writes what a run gives back and returns its exit code. -/
def finish (exit : Exit) : IO UInt32 := do
  (← IO.getStdout).putStr exit.stdout
  (← IO.getStderr).putStr exit.stderr
  return exit.code

/-- Turn after turn of a session, with each line read when its turn comes. -/
partial def converseLive (console : Console) (store : Store) : IO UInt32 := do
  let stdout ← IO.getStdout
  stdout.putStr console.options.prompt
  stdout.flush
  let line ← (← IO.getStdin).getLine
  let input := Input.lines (if line.isEmpty then [] else [some line])
  let (turn, rest, after) := { console with input }.next store
  let (text, after) := turnText { turn with prompt := "" } after
  stdout.putStr text
  match turn.goesOn with
  | .error fault => finish ⟨1, "", sessionEnded fault⟩
  | .ok false => return 0
  | .ok true => converseLive rest after

/-- A run of the program on the system. -/
def start (args : List String) : IO UInt32 := do
  match read args with
  | .error stop => finish stop.exit
  | .ok a =>
    match a.expression, a.file with
    | some expression, _ => finish (runExpression a.options expression)
    | none, some path => do
      let current := (← IO.currentDir).toString
      finish (runScript a.options path (Path.absolute current path) (← openPath path))
    | none, none => do
      let (home, store) := freshScope none
      converseLive (.start (.lines []) home a.options false) store

end Scriptlet.CommandLine

/-- Runs the program. -/
def main (args : List String) : IO UInt32 := Scriptlet.CommandLine.start args
