import Scriptlet.Diagnostic
import Scriptlet.Json.Document
set_option autoImplicit false

/-!
# JSON: diagnostics

A diagnostic is an object with its kind, its code and its message, in this order and without
blanks.  Reading takes the fields in any order and leaves out others; the kind is taken as it is
given, whether or not it owns the code.
-/

namespace Scriptlet.Diagnostic

/-- The JSON form of a diagnostic. -/
def toJson (d : Diagnostic) : String :=
  "\x7b\"kind\":" ++ Json.quote d.kind.key ++ ",\"code\":" ++ d.code.number.repr ++
    ",\"message\":" ++ Json.quote d.message ++ "\x7d"

/-- The diagnostic a JSON value encodes. -/
def ofValue? (json : Json) : Option Diagnostic := do
  let fields ← json.recordFields? ["kind", "code", "message"]
  let kind ← (fields.lookup "kind").bind Json.asChoice?
  let code ← (fields.lookup "code").bind (Json.asNatural? 65536)
  let message ← (fields.lookup "message").bind Json.asText?
  return ⟨← FaultKind.ofKey? kind, ← Code.ofNat? code, message⟩

/-- The diagnostic a text encodes. -/
def ofJson? (text : String) : Option Diagnostic := (Json.ofText? text).bind ofValue?

end Scriptlet.Diagnostic
