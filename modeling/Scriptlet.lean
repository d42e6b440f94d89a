import Scriptlet.Action
import Scriptlet.Bindings
import Scriptlet.CommandLine
import Scriptlet.Console
import Scriptlet.Diagnostic
import Scriptlet.Display
import Scriptlet.Draft
import Scriptlet.Fault
import Scriptlet.Input
import Scriptlet.Json.Diagnostic
import Scriptlet.Json.Document
import Scriptlet.Json.Text
import Scriptlet.Library
import Scriptlet.Main
import Scriptlet.Number.Arithmetic
import Scriptlet.Number.Dyadic
import Scriptlet.Number.Reading
import Scriptlet.Number.Shortest
import Scriptlet.Number.Text
import Scriptlet.Operator
import Scriptlet.Options
import Scriptlet.Path
import Scriptlet.Range
import Scriptlet.Reduction
import Scriptlet.Routine
import Scriptlet.Scan.Block
import Scriptlet.Scan.Cursor
import Scriptlet.Scan.Literal
import Scriptlet.Scan.Machine
import Scriptlet.Scan.Name
import Scriptlet.Scan.Run
import Scriptlet.Script
import Scriptlet.Store
import Scriptlet.Text.Alphabetic
import Scriptlet.Text.Blank
import Scriptlet.Text.CodePoints
import Scriptlet.Text.Lines
import Scriptlet.Text.Numeric
import Scriptlet.Text.Printable
import Scriptlet.Text.Quoted
import Scriptlet.Token
import Scriptlet.Value
import Scriptlet.Proofs.Chain
import Scriptlet.Proofs.Grammar
import Scriptlet.Proofs.Acceptance
import Scriptlet.Proofs.Precedence
import Scriptlet.Proofs.Reference
import Scriptlet.Proofs.Separators
import Scriptlet.Proofs.Lockstep
import Scriptlet.Proofs.Lockstep.Calls
import Scriptlet.Proofs.Lockstep.Reduction
import Scriptlet.Proofs.Lockstep.Scanning
import Scriptlet.Proofs.Sessions
import Scriptlet.Proofs.Moves
import Scriptlet.Proofs.Mirroring
import Scriptlet.Proofs.Depth
import Scriptlet.Proofs.Builtins
import Scriptlet.Proofs.Scripts
import Scriptlet.Proofs.Bindings
import Scriptlet.Proofs.Changes
import Scriptlet.Proofs.Dialogue
import Scriptlet.Proofs.Changes.Calls
import Scriptlet.Proofs.Changes.Lines
import Scriptlet.Proofs.Operations
import Scriptlet.Proofs.Instances
import Scriptlet.Proofs.Scopes
import Scriptlet.Proofs.KeepGoing
import Scriptlet.Proofs.JsonForm
import Scriptlet.Proofs.PartialWrites
import Scriptlet.Proofs.Reading
import Scriptlet.Proofs.Blocks
import Scriptlet.Proofs.Placement
import Scriptlet.Proofs.Subexpressions
import Scriptlet.Proofs.Chaining
import Scriptlet.Proofs.Targets
import Scriptlet.Proofs.Brackets
import Scriptlet.Proofs.Sequels
import Scriptlet.Proofs.Writes
import Scriptlet.Proofs.DottedNames
import Scriptlet.Proofs.CallEffects
import Scriptlet.Proofs.Display
import Scriptlet.Proofs.Ranges
import Scriptlet.Proofs.Printing
import Scriptlet.Proofs.Literals
import Scriptlet.Proofs.Consistency
import Scriptlet.Proofs.Positions
import Scriptlet.Proofs.Bounds
