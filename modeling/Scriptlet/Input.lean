import Scriptlet.Text.Blank
import Scriptlet.Text.Lines
set_option autoImplicit false

/-!
# Input

Scripts and sessions are read line by line.  A line whose bytes are not text is used up by the read
that fails on it; a folder can be opened, and then every read fails.
-/

namespace Scriptlet

/-- Why reading or writing failed. -/
inductive DeviceFault where
  /-- there is no such file -/
  | notFound
  /-- a part of the path before the last is not a folder -/
  | notFolder
  /-- a folder cannot be read as a file -/
  | isFolder
  /-- a path or one of its parts is longer than the system takes -/
  | nameTooLong
  /-- a path holds the character that ends paths -/
  | nameBroken
  /-- the bytes are not text -/
  | notText
  /-- the output takes nothing -/
  | brokenOutput
  /-- any other reason -/
  | other (message : String)
  deriving DecidableEq, Repr

/-- The wording of a device fault. -/
def DeviceFault.message : DeviceFault → String
  | notFound => "No such file or directory (os error 2)"
  | notFolder => "Not a directory (os error 20)"
  | isFolder => "Is a directory (os error 21)"
  | nameTooLong => "File name too long (os error 36)"
  | nameBroken => "file name contained an unexpected NUL byte"
  | notText => "stream did not contain valid UTF-8"
  | brokenOutput => "broken sink"
  | other message => message

/-- What is left to read. -/
inductive Input where
  /-- lines with their line ends; one that is not text is missing -/
  | lines (ahead : List (Option String))
  /-- every read fails -/
  | failing (fault : DeviceFault)

namespace Input

/-- The lines of a text. -/
def ofText (text : String) : Input := .lines ((textLines text).map some)

/-- The lines of a row of bytes. -/
def ofBytes (bytes : List UInt8) : Input :=
  .lines ((splitAfter (· == 10) bytes).map fun line => String.fromUTF8? ⟨line.toArray⟩)

/-- How many reads can still succeed or fail on a line of their own. -/
def remaining : Input → Nat
  | lines ahead => ahead.length
  | failing _ => 0

/-- Reads one line, with its line end; at the end there is none. -/
def readLine : Input → Except DeviceFault (Option String) × Input
  | lines [] => (.ok none, lines [])
  | lines (none :: rest) => (.error .notText, lines rest)
  | lines (some line :: rest) => (.ok (some line), lines rest)
  | failing fault => (.error fault, failing fault)

/-- A read that gives a line uses it up. -/
theorem remaining_readLine {input rest : Input} {line : String}
    (read : input.readLine = (.ok (some line), rest)) : rest.remaining < input.remaining := by
  unfold readLine at read
  split at read <;> cases read
  simp [remaining]

end Input

/-- A line without the line feeds and carriage returns at its end. -/
def withoutLineEnd (line : String) : String :=
  String.ofList (dropTrailing (fun c => c == '\n' || c == '\r') line.toList)

/-- All that is taken from a line are the line feeds and carriage returns at its end. -/
theorem withoutLineEnd_eq_iff {line text : String} :
    withoutLineEnd line = text ↔ ∃ ending : List Char, line.toList = text.toList ++ ending ∧
      (∀ c ∈ ending, c = '\n' ∨ c = '\r') ∧
      ∀ c ∈ text.toList.getLast?, c ≠ '\n' ∧ c ≠ '\r' := by
  have kept : withoutLineEnd line = text ↔
      dropTrailing (fun c => c == '\n' || c == '\r') line.toList = text.toList := by
    rw [withoutLineEnd, ← String.toList_inj, String.toList_ofList]
  rw [kept, dropTrailing_eq_iff]
  simp

end Scriptlet
