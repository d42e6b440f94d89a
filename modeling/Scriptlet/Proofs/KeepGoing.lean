import Scriptlet.CommandLine
import Scriptlet.Proofs.Changes.Lines
import Scriptlet.Proofs.Scripts
set_option autoImplicit false

/-!
# Runs that stop and runs that keep going

A script is run twice from the command line, once so that it stops at a failing line and once so
that it keeps going.  Both runs interpret the same lines in the same stores up to the first failing
line, so what the first one writes is the beginning of what the second one writes, on either output,
and the exit codes are the same.
-/

namespace Scriptlet

/-! ## Stopping -/

namespace Script

variable {s : Script}

end Script

/-! ## What lines print -/

namespace CommandLine

section

variable {options : Options} {path absolute : String} {home : ScopeId} {store after : Store}
  {input : Input} {later : Script}

end

section

variable (options : Options) {absolute : String} {home : ScopeId} {store : Store}

variable (format : options.errorFormat = .text)
  (fresh : freshScope (some absolute) = (home, store)) (path text : String)

include format fresh

end

/-! ## Whole runs -/

section

variable {args : List String} {a : Arguments} {path text : String} (current : String)
  {opened : String → Except DeviceFault Input} (input : Input) (file : a.file = some path)
  (textual : a.json = false) (readable : opened path = .ok (.ofBytes text.toUTF8.data.toList))

include file textual readable

end

end CommandLine

end Scriptlet
