import Scriptlet.Input
import Scriptlet.Options
set_option autoImplicit false

/-!
# Interactive sessions

A session prompts for a line, interprets it, shows its values or its failure, and goes on until the
input ends or the exit command is read.  What it shows is kept apart from what the lines print.
-/

namespace Scriptlet

/-- An interactive session between two lines. -/
structure Console where
  input : Input
  home : ScopeId
  options : Options
  closed : Bool
  /-- whether writing fails -/
  broken : Bool

/-- One turn of a session: what it wrote before and after the line was interpreted, and whether the
session goes on. -/
structure Turn where
  prompt : String
  answer : String
  goesOn : Except DeviceFault Bool

namespace Console

/-- A session before its first line. -/
def start (input : Input) (home : ScopeId) (options : Options) (broken : Bool) : Console :=
  ⟨input, home, options, false, broken⟩

/-- What a session shows for the outcome of a line: nothing for a line without values. -/
def answer (options : Options) (outcome : Except Fault (List Value)) (store : Store) : String :=
  match outcome with
  | .ok [] => ""
  | .ok values => "; ".intercalate (store.valueTexts values) ++ "\n"
  | .error fault => options.errorFormat.render fault.diagnostic ++ "\n"

/-- Whether a line asks the session to end. -/
def isExit (options : Options) (line : String) : Bool :=
  String.ofList (trimBlank line.toList) == options.exitCommand

/-- Prompts, reads and interprets one line. -/
def next (c : Console) (store : Store) : Turn × Console × Store :=
  let prompt := c.options.prompt
  if c.closed then (⟨"", "", .ok false⟩, c, store)
  else if c.broken && prompt != "" then (⟨"", "", .error .brokenOutput⟩, c, store)
  else
    match c.input.readLine with
    | (.error fault, rest) => (⟨prompt, "", .error fault⟩, { c with input := rest }, store)
    | (.ok none, rest) =>
      (⟨prompt, "", .ok false⟩, { c with input := rest, closed := true }, store)
    | (.ok (some text), rest) =>
      let line := withoutLineEnd text
      if isExit c.options line then
        (⟨prompt, "", .ok false⟩, { c with input := rest, closed := true }, store)
      else
        let (outcome, after) := interpret c.options c.home line store
        let shown := answer c.options outcome after
        if c.broken && shown != "" then
          (⟨prompt, "", .error .brokenOutput⟩, { c with input := rest }, after)
        else (⟨prompt, shown, .ok true⟩, { c with input := rest }, after)

/-- A turn after which the session goes on has used up a line. -/
theorem next_shorter {c rest : Console} {store after : Store} {turn : Turn}
    (taken : c.next store = (turn, rest, after)) (goesOn : turn.goesOn = .ok true) :
    rest.input.remaining < c.input.remaining := by
  unfold next at taken
  simp only at taken
  split at taken
  · cases taken; cases goesOn
  split at taken
  · cases taken; cases goesOn
  split at taken
  · cases taken; cases goesOn
  · cases taken; cases goesOn
  · rename_i read
    have shorter := Input.remaining_readLine read
    split at taken
    · cases taken; cases goesOn
    split at taken
    · cases taken; cases goesOn
    · cases taken
      exact shorter

/-- Turn after turn until the session ends or a device fails; the text is what it wrote. -/
def all (c : Console) (store : Store) : (String × Except DeviceFault Unit) × Console × Store :=
  match _taken : c.next store with
  | (turn, rest, after) =>
    match _going : turn.goesOn with
    | .error fault => ((turn.prompt ++ turn.answer, .error fault), rest, after)
    | .ok false => ((turn.prompt ++ turn.answer, .ok ()), rest, after)
    | .ok true =>
      let ((text, result), last) := rest.all after
      ((turn.prompt ++ turn.answer ++ text, result), last)
termination_by c.input.remaining
decreasing_by exact next_shorter _taken _going

end Console

end Scriptlet
