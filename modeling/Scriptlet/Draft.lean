import Scriptlet.Scan.Run
set_option autoImplicit false

/-!
# Drafts

A draft is a statement in the making: pieces of text are read into it one after the other, with
separators chained in between where they should stay apart.  An edit that fails leaves the draft as
it was.
-/

namespace Scriptlet

/-- A statement in the making, and where and how its text is read. -/
structure Draft where
  setting : Setting
  statement : Statement

/-- How deep brackets may nest unless a limit is given. -/
def defaultMaxDepth : Nat := 64

namespace Draft

/-- An empty draft in a scope. -/
def new (home : ScopeId) (maxDepth : Nat) : Draft := ⟨⟨home, maxDepth⟩, .empty⟩

/-- Reads a text from the character `start` on to the end of the draft. -/
def readFrom (d : Draft) (source : String) (start : Int) : Action Draft :=
  if start < 0 then .fail (.negativeStart start)
  else do
    let statement ← scan d.setting (.ofText source.toList start.toNat)
    return { d with statement := d.statement.append statement }

/-- Reads a whole text to the end of the draft. -/
def read (d : Draft) (source : String) : Action Draft := d.readFrom source 0

/-- Keeps apart what was read so far from what comes next. -/
def chain (d : Draft) : Except Fault Draft :=
  d.statement.chain.map fun statement => { d with statement }

/-- What can be done to a draft. -/
inductive Edit where
  /-- a whole text is read -/
  | read (source : String)
  /-- a text is read from the character `start` on -/
  | readFrom (source : String) (start : Int)
  /-- a separator is added -/
  | chain

/-- The draft that comes of an edit. -/
def Edit.apply (d : Draft) : Edit → Action Draft
  | read source => d.read source
  | readFrom source start => d.readFrom source start
  | chain => .ofExcept d.chain

/-- Edits the draft in place.  After a failure the draft is as before, though what the text did to
the store until then stays. -/
def edit (d : Draft) (e : Edit) (store : Store) : Except Fault Unit × Draft × Store :=
  match e.apply d store with
  | (.ok edited, after) => (.ok (), edited, after)
  | (.error fault, after) => (.error fault, d, after)

end Draft

/-- The statement of one text, with the default limit on nesting. -/
def parse (home : ScopeId) (source : String) : Action Statement := do
  let draft ← (Draft.new home defaultMaxDepth).read source
  return draft.statement

end Scriptlet
