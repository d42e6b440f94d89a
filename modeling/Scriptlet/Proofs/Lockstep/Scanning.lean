import Scriptlet.Options
import Scriptlet.Proofs.Lockstep.Calls
import Scriptlet.Proofs.Lockstep.Reduction
set_option autoImplicit false

/-!
# Lines in lockstep

The scanner reads the same text in lockstep: what it reads of the store, the namespaces on the way
of a dotted name and the routines it calls, stands for the same in both stores.  A line interpreted
in scopes that stand for one another is therefore interpreted in lockstep.
-/

namespace Scriptlet

/-! ## Scanners -/

/-- Openings that differ in identities only. -/
inductive Opening.Related (w : World) : Opening → Opening → Prop where
  | group (pos : Nat) : Related w (.group pos) (.group pos)
  | array : Related w .array .array
  | call {r q : Routine} (same : r.Related w q) : Related w (.call r) (.call q)
  | block : Related w .block .block

/-- Rows in the making that differ in identities only. -/
structure Row.Related (w : World) (a b : Row) : Prop where
  tokens : Token.AllRelated w a.tokens b.tokens
  operators : a.operators = b.operators

/-- Levels that differ in identities only. -/
structure Level.Related (w : World) (a b : Level) : Prop where
  opening : a.opening.Related w b.opening
  suspended : a.suspended.Related w b.suspended

/-- Settings with one limit, in scopes that stand for one another. -/
structure Setting.Related (w : World) (a b : Setting) : Prop where
  home : w.held a.home b.home
  maxDepth : a.maxDepth = b.maxDepth

/-- Scanners at one place, whose rows and levels differ in identities only. -/
structure Scanner.Related (w : World) (a b : Scanner) : Prop where
  cursor : a.cursor = b.cursor
  row : a.row.Related w b.row
  levels : List.Forall₂ (Level.Related w) a.levels b.levels

/-- Progress that differs in identities only. -/
inductive Progress.Related (w : World) : Progress → Progress → Prop where
  | more {a b : Scanner} (same : a.Related w b) : Related w (.more a) (.more b)
  | done {a b : Statement} (same : a.Related w b) : Related w (.done a) (.done b)

theorem Opening.Related.closer_eq {w : World} {a b : Opening} (related : a.Related w b) :
    a.closer = b.closer := by
  cases related <;> rfl

theorem Opening.Related.mono {w later : World} (within : w.Within later) {a b : Opening}
    (related : a.Related w b) : a.Related later b := by
  cases related with
  | group pos => exact .group pos
  | array => exact .array
  | call same => exact .call ⟨within.routines same.id, same.behaviour⟩
  | block => exact .block

theorem Row.Related.mono {w later : World} (within : w.Within later) {a b : Row}
    (related : a.Related w b) : a.Related later b :=
  ⟨related.tokens.mono within, related.operators⟩

theorem Level.Related.mono {w later : World} (within : w.Within later) {a b : Level}
    (related : a.Related w b) : a.Related later b :=
  ⟨related.opening.mono within, related.suspended.mono within⟩

theorem Setting.Related.mono {w later : World} (within : w.Within later) {a b : Setting}
    (related : a.Related w b) : a.Related later b :=
  ⟨within.held related.home, related.maxDepth⟩

theorem Scanner.Related.mono {w later : World} (within : w.Within later) {a b : Scanner}
    (related : a.Related w b) : a.Related later b :=
  ⟨related.cursor, related.row.mono within, related.levels.imp fun _ _ level => level.mono within⟩

theorem Row.Related.push {w : World} {a b : Row} (related : a.Related w b) {x y : Token}
    (token : Token.Related w x y) : (a.push x).Related w (b.push y) where
  tokens := .cons token related.tokens
  operators := by rw [Row.push, Row.push, token.operator?_eq, related.operators]

namespace Scanner.Related

variable {w : World} {a b : Scanner}

theorem add (related : a.Related w b) {x y : Token} (token : Token.Related w x y)
    (cursor : Cursor) : (a.add x cursor).Related w (b.add y cursor) :=
  ⟨rfl, related.row.push token, related.levels⟩

theorem statement (related : a.Related w b) : a.statement.Related w b.statement :=
  ⟨List.forall₂_reverse_iff.mpr related.row.tokens,
    congrArg List.reverse related.row.operators⟩

theorem enter (related : a.Related w b) {first second : Setting} (settings : first.Related w second)
    {x y : Opening} (opening : x.Related w y) (cursor : Cursor) :
    Alike (Progress.Related w) (a.enter first x cursor) (b.enter second y cursor) := by
  rw [Scanner.enter, Scanner.enter, settings.maxDepth, related.levels.length_eq]
  split
  · exact .error _
  · exact .ok (.more ⟨rfl, ⟨.nil, rfl⟩, .cons ⟨opening, related.row⟩ related.levels⟩)

end Scanner.Related

/-! ## Names -/

theorem Store.Related.stepInto {w : World} {s t : Store} (related : s.Related w t)
    {i j : ScopeId} (held : w.held i j) (name : String) :
    Alike (fun k l => w.held k l) (s.stepInto i name) (t.stepInto j name) := by
  have found := related.resolve held name
  rw [Store.stepInto, Store.stepInto]
  generalize s.resolve i name = x at found ⊢
  generalize t.resolve j name = y at found ⊢
  cases found with
  | error fault => exact .error fault
  | ok value =>
    cases value with
    | scope next => exact .ok next
    | _ => exact .error _

/-- A dotted name leads to labels that stand for one another. -/
theorem Store.Related.followName {w : World} {s t : Store} (related : s.Related w t)
    (chars : List Char) :
    ∀ {i j : ScopeId} (name : String) (pos : Nat), w.held i j →
      Alike (fun p q => p.1.Related w q.1 ∧ p.2 = q.2)
        (followName s i name pos chars) (followName t j name pos chars) := by
  induction chars with
  | nil =>
    intro i j name pos held
    exact .ok ⟨⟨held, rfl⟩, rfl⟩
  | cons c rest ih =>
    intro i j name pos held
    rw [Scriptlet.followName, Scriptlet.followName]
    split
    · exact ih _ _ held
    split
    · have next := related.stepInto held name
      generalize s.stepInto i name = x at next ⊢
      generalize t.stepInto j name = y at next ⊢
      cases next with
      | error fault => exact .error fault
      | ok next => exact ih _ _ next
    · exact .ok ⟨⟨held, rfl⟩, rfl⟩

namespace Lockstep

variable {w : World} {a b : Scanner} {first second : Setting}

theorem name (scanners : a.Related w b) (settings : first.Related w second) :
    Lockstep w Progress.Related (a.name first) (b.name second) := by
  refine .ask fun s t related => ?_
  have read : Alike (fun p q => p.1.Related w q.1 ∧ p.2 = q.2)
      (readName s first.home a.cursor) (readName t second.home b.cursor) := by
    rw [readName, readName, scanners.cursor]
    exact related.followName _ _ _ settings.home
  generalize readName s first.home a.cursor = x at read ⊢
  generalize readName t second.home b.cursor = y at read ⊢
  cases read with
  | error fault => exact .error fault
  | @ok p q labels =>
    obtain ⟨label, cursor⟩ := p
    obtain ⟨label', cursor'⟩ := q
    obtain ⟨labels, rfl⟩ := labels
    simp only
    split
    · have called := related.resolveLabel labels
      generalize label.resolve s = x at called ⊢
      generalize label'.resolve t = y at called ⊢
      cases called with
      | error fault => exact .error fault
      | ok value =>
        rw [labels.name]
        cases value with
        | routine routines => exact scanners.enter settings (.call routines) _
        | _ => exact .error _
    · exact .ok (.more (scanners.add (.label labels) cursor))

/-! ## Brackets -/

theorem factorial (scanners : a.Related w b) :
    Lockstep w Progress.Related a.factorial b.factorial := by
  obtain ⟨cursor, ⟨row, operators⟩, levels⟩ := a
  obtain ⟨cursor', ⟨row', operators'⟩, levels'⟩ := b
  obtain ⟨cursors, ⟨rows, mirrored⟩, same⟩ := scanners
  simp only at cursors rows mirrored same
  subst cursors
  refine .ask fun s t related => ?_
  cases rows with
  | nil => exact .error _
  | @cons x y _ _ token earlier =>
    have number := related.resolved token
    cases token with
    | operator op => exact .error _
    | _ =>
      simp only
      revert number
      generalize Token.resolved s _ = p
      generalize Token.resolved t _ = q
      intro number
      cases number with
      | error fault => exact .error fault
      | ok value =>
        simp only [value.asNumber_eq]
        split
        · exact .error _
        split
        · exact .error _
        · exact .ok (.more ⟨rfl, ⟨.cons (.value (.number _)) earlier, mirrored⟩, same⟩)

theorem afterGate_alike (scanners : a.Related w b) (settings : first.Related w second)
    {x y : Value} (result : Value.Related w x y) :
    Alike (Progress.Related w) (a.afterGate first x) (b.afterGate second y) := by
  simp only [Scanner.afterGate, scanners.cursor, result.asBool_eq]
  split
  · split
    · exact .error _
    · exact scanners.enter settings .block _
    · split
      · exact .error _
      · exact .ok (.more (scanners.add (.value (.array rfl (by simp))) _))
  · exact .ok (.more (scanners.add (.value result) _))

theorem resume (scanners : a.Related w b) (settings : first.Related w second) {x y : Opening}
    (opening : x.Related w y) {xs ys : List Value} (values : Value.AllRelated w xs ys) :
    Lockstep w Progress.Related (a.resume first x xs) (b.resume second y ys) := by
  have gathered : Lockstep w Progress.Related
      (return .more (a.add (.value (.array xs)) a.cursor))
      (return .more (b.add (.value (.array ys)) b.cursor)) := by
    rw [scanners.cursor]
    exact .pure (.more (scanners.add (.value (Value.related_array_iff.mpr values)) _))
  cases opening with
  | group pos =>
    cases values with
    | nil => exact .fail _
    | cons value rest =>
      cases rest with
      | nil =>
        simp only [Scanner.resume, scanners.cursor]
        exact .pure (.more (scanners.add (.value value) _))
      | cons _ rest =>
        simp only [Scanner.resume, List.length_cons, rest.length_eq]
        exact .fail _
  | array => exact gathered
  | block => exact gathered
  | @call r q routines =>
    refine .bind (.call routines settings.home values) fun later x y within result => ?_
    have scanners := scanners.mono within
    have gates : r.isGate = q.isGate := by
      rw [Routine.isGate, Routine.isGate, routines.behaviour]
    rw [gates]
    split
    · exact .ofExcept fun _ _ _ => afterGate_alike scanners (settings.mono within) result
    · rw [scanners.cursor]
      exact .pure (.more (scanners.add (.value result) _))

theorem close (scanners : a.Related w b) (settings : first.Related w second) (c : Char) :
    Lockstep w Progress.Related (a.close first c) (b.close second c) := by
  have statements := scanners.statement
  obtain ⟨cursor, row, levels⟩ := a
  obtain ⟨cursor', row', levels'⟩ := b
  obtain ⟨cursors, rows, same⟩ := scanners
  simp only at cursors rows same
  subst cursors
  cases same with
  | nil => exact .fail _
  | @cons inner inner' others others' level outer =>
    simp only [Scanner.close, level.opening.closer_eq]
    split
    · refine .bind (.evaluate statements) fun later xs ys within values => ?_
      have enclosing : Scanner.Related later ⟨cursor.advance 1, inner.suspended, others⟩
          ⟨cursor.advance 1, inner'.suspended, others'⟩ :=
        ⟨rfl, level.suspended.mono within, outer.imp fun _ _ level => level.mono within⟩
      exact .resume enclosing (settings.mono within) (level.opening.mono within) values
    · exact .fail _

/-! ## One step -/

theorem symbol (scanners : a.Related w b) (settings : first.Related w second) (c : Char)
    (rest : List Char) :
    Lockstep w Progress.Related (a.symbol first c rest) (b.symbol second c rest) := by
  simp only [Scanner.symbol, scanners.cursor]
  split
  · exact .pure (.more (scanners.add (.operator _) _))
  split
  · refine .bind (R := fun _ p q => p = q) (.ofExcept fun _ _ _ => .of_eq rfl) ?_
    rintro later ⟨text, cursor⟩ _ within rfl
    exact .pure (.more ((scanners.mono within).add (.value (.string text)) cursor))
  split
  · exact .ofExcept fun _ _ _ => scanners.enter settings (.group _) _
  split
  · exact .ofExcept fun _ _ _ => scanners.enter settings .array _
  split
  · exact .fail _
  split
  · exact .close scanners settings c
  split
  · exact .factorial scanners
  · exact .fail _

/-- Related scanners make the same step. -/
theorem step (scanners : a.Related w b) (settings : first.Related w second) :
    Lockstep w Progress.Related (a.step first) (b.step second) := by
  have statements := scanners.statement
  have named := Lockstep.name scanners settings
  have symbols := Lockstep.symbol scanners settings
  simp only [Scanner.step, scanners.cursor]
  split
  · have levels := scanners.levels
    generalize a.levels = xs at levels ⊢
    generalize b.levels = ys at levels ⊢
    cases levels with
    | nil => exact .pure (.done statements)
    | cons level _ =>
      simp only [level.opening.closer_eq]
      exact .fail _
  · split
    · exact .pure (.more ⟨rfl, scanners.row, scanners.levels⟩)
    split
    · refine .bind (R := fun _ p q => p = q) (.ofExcept fun _ _ _ => .of_eq rfl) ?_
      rintro later ⟨n, cursor⟩ _ within rfl
      exact .pure (.more ((scanners.mono within).add (.value (.number n)) cursor))
    split
    · exact named
    · exact symbols _ _

end Lockstep

/-! ## To the end of a line -/

/-- What the scanner does after a step: it goes on, or it has read a statement. -/
def Progress.finish (setting : Setting) : Progress → Action Statement
  | .more next => next.run setting
  | .done statement => pure statement

theorem Scanner.run_eq (setting : Setting) (s : Scanner) :
    s.run setting = s.step setting >>= Progress.finish setting := by
  funext store
  rw [Scanner.run]
  split
  · rename_i fault after stepped
    rw [Action.bind_of_error stepped]
  · rename_i statement after stepped
    rw [Action.bind_of_ok stepped]
    rfl
  · rename_i next after stepped
    rw [Action.bind_of_ok stepped]
    rfl

/-- A line is scanned to a statement, which is evaluated. -/
theorem interpret_eq (options : Options) (home : ScopeId) (line : String) :
    interpret options home line =
      scan ⟨home, options.maxDepth⟩ (.ofText line.toList 0) >>= Statement.evaluate := by
  simp [interpret, Draft.new, Draft.read, Draft.readFrom, Statement.append, Statement.empty]

namespace Lockstep

/-- Related scanners read the same statement.  Each step that leaves more to read has read a
character, so the induction is on the number of characters ahead. -/
theorem run {w : World} {a b : Scanner} {first second : Setting} (scanners : a.Related w b)
    (settings : first.Related w second) :
    Lockstep w Statement.Related (a.run first) (b.run second) := by
  induction ahead : a.cursor.ahead.length using Nat.strongRecOn generalizing w a b with
  | ind length ih =>
    rw [Scanner.run_eq, Scanner.run_eq]
    refine .bind (Lockstep.step scanners settings).produced ?_
    rintro later x y within ⟨progress, s, after, stepped⟩
    cases progress with
    | done statement => exact .pure statement
    | more next =>
      have shorter := Scanner.step_shorter stepped
      exact ih _ (by omega) next (settings.mono within) rfl

/-- A line interpreted in scopes that stand for one another has the same answer in both. -/
theorem interpret {w : World} {i j : ScopeId} (held : w.held i j) (options : Options)
    (line : String) :
    Lockstep w Value.AllRelated (interpret options i line) (interpret options j line) := by
  rw [interpret_eq, interpret_eq]
  have settings : Setting.Related w ⟨i, options.maxDepth⟩ ⟨j, options.maxDepth⟩ := ⟨held, rfl⟩
  refine .bind (.run ⟨rfl, ⟨.nil, rfl⟩, .nil⟩ settings) fun later statement statement' _ same => ?_
  exact .evaluate same

end Lockstep

end Scriptlet
