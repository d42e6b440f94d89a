import Scriptlet.Library
import Scriptlet.Reduction
import Scriptlet.Scan.Block
import Scriptlet.Scan.Literal
import Scriptlet.Scan.Name
set_option autoImplicit false

/-!
# Scanning: levels of brackets

The scanner reads a line token by token.  An opening bracket suspends the row of tokens read so far
and starts a level of its own; when the bracket closes, the statement of the level is evaluated at
once and its result becomes a token of the suspended row.  The open levels form a stack, innermost
first, and every step of the scanner reads at least one character.
-/

namespace Scriptlet

/-- What opened a level. -/
inductive Opening where
  /-- a bracket around one value, and where it stands -/
  | group (pos : Nat)
  /-- an array -/
  | array
  /-- the arguments of a call -/
  | call (routine : Routine)
  /-- a block that is run -/
  | block

/-- The character that closes a level. -/
def Opening.closer : Opening → Char
  | group _ => ')'
  | array => ']'
  | call _ => ')'
  | block => '\x7d'

/-- A row of tokens in the making, and beside it the operators among them.  Both are kept with the
last one in front. -/
structure Row where
  tokens : List Token
  operators : List Operator

namespace Row

/-- The row without a token. -/
def empty : Row := ⟨[], []⟩

/-- Adds a token; an operator also goes to the operators. -/
def push (row : Row) (token : Token) : Row :=
  ⟨token :: row.tokens, token.operator?.toList ++ row.operators⟩

/-- The statement that a finished row makes. -/
def statement (row : Row) : Statement := ⟨row.tokens.reverse, row.operators.reverse⟩

end Row

/-- An open level: what opened it, and the row that goes on when it closes. -/
structure Level where
  opening : Opening
  suspended : Row

/-- Where the names of a line live, and how deep its brackets may nest. -/
structure Setting where
  home : ScopeId
  maxDepth : Nat

/-- The scanner between two tokens: its place, the row of the present level, and the open levels
around it. -/
structure Scanner where
  cursor : Cursor
  row : Row
  levels : List Level

/-- What a step of the scanner comes to. -/
inductive Progress where
  /-- there is more to read -/
  | more (next : Scanner)
  /-- the line has ended outside all brackets -/
  | done (statement : Statement)

namespace Scanner

/-- The statement of the present level. -/
def statement (s : Scanner) : Statement := s.row.statement

/-- Adds a token to the present row and goes on at `cursor`. -/
def add (s : Scanner) (token : Token) (cursor : Cursor) : Scanner :=
  { s with row := s.row.push token, cursor }

/-- Opens a level whose first character is at `cursor`. -/
def enter (setting : Setting) (s : Scanner) (opening : Opening) (cursor : Cursor) :
    Except Fault Progress :=
  if setting.maxDepth < s.levels.length + 1 then .error (.tooDeep setting.maxDepth)
  else .ok (.more ⟨cursor, .empty, ⟨opening, s.row⟩ :: s.levels⟩)

/-- A name, or a call when a bracket follows it directly. -/
def name (setting : Setting) (s : Scanner) : Action Progress := .ask fun store =>
  match readName store setting.home s.cursor with
  | .error fault => .error fault
  | .ok (label, cursor) =>
    if cursor.ahead.head? = some '(' then
      match label.resolve store with
      | .error fault => .error fault
      | .ok (.routine routine) => s.enter setting (.call routine) (cursor.advance 1)
      | .ok other => .error (.notFunction label.name other.typeName)
    else .ok (.more (s.add (.label label) cursor))

/-- The factorial of the token before an exclamation mark, which it takes the place of. -/
def factorial (s : Scanner) : Action Progress := .ask fun store =>
  match s.row.tokens with
  | [] => .error (.factorialOperand s.cursor.pos)
  | .operator _ :: _ => .error (.factorialOperand s.cursor.pos)
  | token :: earlier =>
    match token.resolved store with
    | .error fault => .error fault
    | .ok value =>
      match value.asNumber with
      | .error _ => .error (.factorialOperand s.cursor.pos)
      | .ok n =>
        match Number.natural? Number.factorialLimit n with
        | none => .error (.factorialDomain n)
        | some k =>
          .ok (.more { s with
            row := { s.row with tokens := .value (.number (Number.factorial k)) :: earlier }
            cursor := s.cursor.advance 1 })

/-- Goes on after a call of a gate, with the scanner `s` behind the closing bracket.  A block that
follows is run when the gate is open and passed over when it is closed; without a block the gate is
a value like any other. -/
def afterGate (setting : Setting) (s : Scanner) (result : Value) : Except Fault Progress :=
  let brace := s.cursor.advance (s.cursor.ahead.takeWhile isBlank).length
  if brace.ahead.head? = some '\x7b' then
    match result.asBool with
    | .error fault => .error fault
    | .ok true => s.enter setting .block (brace.advance 1)
    | .ok false =>
      match blockLength? .start brace.ahead with
      | none => .error (.openBlock brace.pos)
      | some length => .ok (.more (s.add (.value (.array [])) (brace.advance length)))
  else .ok (.more (s.add (.value result) s.cursor))

/-- Goes on after a level has closed with `values`, with the scanner `s` of the suspended row
behind the closing bracket. -/
def resume (setting : Setting) (s : Scanner) (opening : Opening) (values : List Value) :
    Action Progress :=
  match opening with
  | .group pos =>
    match values with
    | [value] => return .more (s.add (.value value) s.cursor)
    | _ => .fail (.bracketCount pos values.length)
  | .array | .block => return .more (s.add (.value (.array values)) s.cursor)
  | .call routine => do
    let result ← routine.call setting.home values
    if routine.isGate then Action.ofExcept (s.afterGate setting result)
    else return .more (s.add (.value result) s.cursor)

/-- A closing bracket: the present level is evaluated and the suspended row goes on. -/
def close (setting : Setting) (s : Scanner) (c : Char) : Action Progress :=
  match s.levels with
  | [] => .fail (.strayClosing c s.cursor.pos)
  | level :: outer =>
    if c = level.opening.closer then do
      let values ← s.statement.evaluate
      resume setting ⟨s.cursor.advance 1, level.suspended, outer⟩ level.opening values
    else .fail (.closingMismatch c s.cursor.pos level.opening.closer)

/-- Reads what starts with the character `c`, which is not white space and has `rest` after it. -/
def symbol (setting : Setting) (s : Scanner) (c : Char) (rest : List Char) : Action Progress :=
  match operatorAt? c rest with
  | some (op, width) => return .more (s.add (.operator op) (s.cursor.advance width))
  | none =>
    if c = '"' ∨ c = '\'' then do
      let (text, cursor) ← Action.ofExcept (readString s.cursor c)
      return .more (s.add (.value (.string text)) cursor)
    else if c = '(' then .ofExcept (s.enter setting (.group s.cursor.pos) (s.cursor.advance 1))
    else if c = '[' then .ofExcept (s.enter setting .array (s.cursor.advance 1))
    else if c = '\x7b' then .fail (.strayBlock s.cursor.pos)
    else if c = ')' ∨ c = ']' ∨ c = '\x7d' then s.close setting c
    else if c = '!' then s.factorial
    else .fail (.unexpectedChar c s.cursor.pos)

/-- Reads one token, one blank, or the end of the line. -/
def step (setting : Setting) (s : Scanner) : Action Progress :=
  match s.cursor.ahead with
  | [] =>
    match s.levels with
    | [] => return .done s.statement
    | level :: _ => .fail (.openBracket level.opening.closer)
  | c :: rest =>
    if isBlank c then return .more { s with cursor := s.cursor.advance 1 }
    else if isNumberChar c then do
      let (n, cursor) ← Action.ofExcept (readNumber s.cursor)
      return .more (s.add (.value (.number n)) cursor)
    else if isNameStart c then s.name setting
    else s.symbol setting c rest

end Scanner

end Scriptlet
