import Scriptlet.Draft
import Scriptlet.Json.Diagnostic
set_option autoImplicit false

/-!
# Options

What a script or an interactive session can be told: what to do after a failing line, how to show
failures, how deep brackets may nest, and how a session prompts and ends.
-/

namespace Scriptlet

/-- What a script does after a failing line. -/
inductive ErrorPolicy where
  /-- it stops there -/
  | abort
  /-- it notes the failure and goes on -/
  | continue
  deriving DecidableEq, Repr

/-- How failures are shown. -/
inductive ErrorFormat where
  /-- as a line of text -/
  | text
  /-- as a JSON object -/
  | json
  deriving DecidableEq, Repr

/-- How the policy is encoded. -/
def ErrorPolicy.key : ErrorPolicy → String
  | abort => "abort"
  | .continue => "continue"

/-- The policy encoded as `text`. -/
def ErrorPolicy.ofKey? (text : String) : Option ErrorPolicy :=
  [.abort, .continue].find? fun policy => policy.key == text

/-- How the format is encoded. -/
def ErrorFormat.key : ErrorFormat → String
  | text => "text"
  | json => "json"

/-- The format encoded as `text`. -/
def ErrorFormat.ofKey? (text : String) : Option ErrorFormat :=
  [.text, .json].find? fun format => format.key == text

/-- A failure as it is shown. -/
def ErrorFormat.render : ErrorFormat → Diagnostic → String
  | text, d => d.text
  | json, d => d.toJson

/-- The settings of a script or a session. -/
structure Options where
  errorPolicy : ErrorPolicy := .abort
  errorFormat : ErrorFormat := .text
  maxDepth : Nat := defaultMaxDepth
  prompt : String := ">>> "
  exitCommand : String := "exit"
  deriving DecidableEq, Repr

namespace Options

/-- The names of the settings, in their order. -/
def fieldNames : List String :=
  ["error_policy", "error_format", "max_depth", "prompt", "exit_command"]

/-- A setting read from its field, or its default when the field is missing. -/
def setting {α : Type} (fields : List (String × Json)) (name : String) (read : Json → Option α)
    (default : α) : Option α :=
  match fields.lookup name with
  | none => some default
  | some value => read value

/-- The options a JSON value encodes; missing settings keep their defaults. -/
def ofValue? (json : Json) : Option Options := do
  let fields ← json.recordFields? fieldNames
  let defaults : Options := {}
  return {
    errorPolicy := ← setting fields "error_policy"
      (fun value => value.asChoice?.bind ErrorPolicy.ofKey?) defaults.errorPolicy
    errorFormat := ← setting fields "error_format"
      (fun value => value.asChoice?.bind ErrorFormat.ofKey?) defaults.errorFormat
    maxDepth := ← setting fields "max_depth" (Json.asNatural? UInt64.size) defaults.maxDepth
    prompt := ← setting fields "prompt" Json.asText? defaults.prompt
    exitCommand := ← setting fields "exit_command" Json.asText? defaults.exitCommand }

/-- The options a text encodes. -/
def ofJson? (text : String) : Option Options := (Json.ofText? text).bind ofValue?

end Options

/-- Reads and evaluates one line in a scope. -/
def interpret (options : Options) (home : ScopeId) (line : String) : Action (List Value) := do
  let draft ← (Draft.new home options.maxDepth).read line
  draft.statement.evaluate

end Scriptlet
