import Scriptlet.Proofs.Placement
set_option autoImplicit false

/-!
# Reading on behind another text

What the scanner does depends on what lies ahead of it, and hardly on what it has read.  Behind
another text, with its tokens behind those of a row that ends in an operator, a text is read step
for step as it is read alone: the same calls are made, the same levels opened and closed, and the
same faults met, only further on.  A factorial is the one token that looks back, and behind an
operator it finds no operand, as at the start of a text.  So it makes no difference whether two
texts are read one after the other with a separator chained in between, or as one text with a comma.
-/

namespace Scriptlet

/-! ## Faults further on -/

/-- The same fault in a text that stands `offset` characters further on. -/
def Fault.shift (offset : Nat) : Fault → Fault
  | unexpectedChar c pos => unexpectedChar c (pos + offset)
  | factorialOperand pos => factorialOperand (pos + offset)
  | strayBlock pos => strayBlock (pos + offset)
  | bracketCount pos count => bracketCount (pos + offset) count
  | twoPoints pos => twoPoints (pos + offset)
  | noDigits pos => noDigits (pos + offset)
  | openBlock pos => openBlock (pos + offset)
  | openString pos quote => openString (pos + offset) quote
  | strayClosing c pos => strayClosing c (pos + offset)
  | closingMismatch c pos expected => closingMismatch c (pos + offset) expected
  | other => other

theorem Fault.code_shift (offset : Nat) (fault : Fault) :
    (fault.shift offset).code = fault.code := by
  cases fault <;> rfl

/-- The fault of a value has no place in the text. -/
theorem Fault.OfValues.shift {fault : Fault} (values : fault.OfValues) (offset : Nat) :
    fault.shift offset = fault := by
  unfold Fault.shift
  split
  case h_11 => rfl
  all_goals exact values.elim

theorem Fault.OfCalls.shift {fault : Fault} (calls : fault.OfCalls) (offset : Nat) :
    fault.shift offset = fault := by
  rcases calls with values | rfl
  · exact values.shift offset
  · rfl

/-- A result taken over by `f`, or the same fault further on. -/
def takeOver {α β : Type} (offset : Nat) (f : α → β) : Except Fault α → Except Fault β
  | .ok a => .ok (f a)
  | .error fault => .error (fault.shift offset)

theorem takeOver_of_values {α β : Type} {fault : Fault} (values : fault.OfValues) (offset : Nat)
    (f : α → β) : .error fault = takeOver offset f (.error fault) :=
  congrArg Except.error (values.shift offset).symm

/-- The second step does what the first does to the store, and has its result taken over by `f` or
its fault further on. -/
def Action.TakenOver {α β : Type} (offset : Nat) (f : α → β) (a : Action α) (b : Action β) : Prop :=
  ∀ store, b store = (takeOver offset f (a store).1, (a store).2)

namespace Action.TakenOver

variable {α β γ δ : Type} {offset : Nat} {f : α → β} {a : Action α} {b : Action β}

theorem ask {read : Store → Except Fault α} {other : Store → Except Fault β}
    (same : ∀ store, other store = takeOver offset f (read store)) :
    (Action.ask read).TakenOver offset f (Action.ask other) :=
  fun store => congrArg (·, store) (same store)

theorem ofExcept {x : Except Fault α} {y : Except Fault β} (same : y = takeOver offset f x) :
    (Action.ofExcept x).TakenOver offset f (Action.ofExcept y) :=
  ask fun _ => same

theorem pure (x : α) : Action.TakenOver offset f (Pure.pure x) (Pure.pure (f x)) := fun _ => rfl

theorem fail (fault : Fault) :
    (Action.fail fault).TakenOver offset f (Action.fail (fault.shift offset)) :=
  fun _ => rfl

/-- A step that fails only as calls do is the same further on. -/
theorem of_calls (calls : a.Ensures (fun _ => True) Fault.OfCalls) (offset : Nat) :
    a.TakenOver offset id a := by
  intro store
  have meets := calls store
  cases done : a store with
  | mk result after =>
    rw [done] at meets
    cases meets with
    | ok _ => rfl
    | error faults => exact congrArg (Except.error ·, after) (faults.shift offset).symm

/-- A step that fails only for values is the same further on. -/
theorem of_proper (proper : a.Proper) (offset : Nat) : a.TakenOver offset id a :=
  .of_calls (proper.mono (fun _ => id) fun _ => .inl) offset

/-- One step after the other, where the second depends on a result that the first really has. -/
theorem bind {g : α → Action γ} {h : β → Action δ} {k : γ → δ} (first : a.TakenOver offset f b)
    (next : ∀ x store after, a store = (.ok x, after) → (g x).TakenOver offset k (h (f x))) :
    (a >>= g).TakenOver offset k (b >>= h) := by
  intro store
  have same := first store
  cases done : a store with
  | mk result between =>
    rw [done] at same
    cases result with
    | error fault => rw [Action.bind_of_error done, Action.bind_of_error same]; rfl
    | ok x =>
      rw [Action.bind_of_ok done, Action.bind_of_ok same]
      exact next x store between done between

end Action.TakenOver

/-! ## Scanners further on -/

/-- A bracket knows where it stands. -/
def Opening.shift (offset : Nat) : Opening → Opening
  | group pos => group (pos + offset)
  | other => other

theorem Opening.closer_shift (offset : Nat) (opening : Opening) :
    (opening.shift offset).closer = opening.closer := by
  cases opening <;> rfl

/-- How a text is read on: `offset` characters further on than alone, and with its tokens behind a
row that has none or ends in an operator. -/
structure Sequel where
  offset : Nat
  base : Row
  ends : ∀ token ∈ base.tokens.head?, token.isOperator = true

namespace Sequel

variable (k : Sequel)

/-- A place of the text, further on. -/
def cursor (c : Cursor) : Cursor := ⟨c.pos + k.offset, c.ahead⟩

/-- What stands in front of a row inside the given levels: only outside all brackets there is
something. -/
def below : List Level → Row
  | [] => k.base
  | _ :: _ => .empty

/-- A row inside the given levels, behind what stands in front of it. -/
def row (outer : List Level) (r : Row) : Row :=
  ⟨r.tokens ++ (k.below outer).tokens, r.operators ++ (k.below outer).operators⟩

/-- Levels of the text; the row suspended by each is one inside those around it. -/
def levels : List Level → List Level
  | [] => []
  | level :: outer =>
    ⟨level.opening.shift k.offset, k.row outer level.suspended⟩ :: levels outer

/-- A scanner of the text, further on. -/
def scanner (s : Scanner) : Scanner := ⟨k.cursor s.cursor, k.row s.levels s.row, k.levels s.levels⟩

/-- The whole statement, when that of the text is `st`. -/
def statement (st : Statement) : Statement := k.base.statement.append st

/-- What a step comes to, further on. -/
def progress : Progress → Progress
  | .more next => .more (k.scanner next)
  | .done st => .done (k.statement st)

@[simp] theorem scanner_cursor (s : Scanner) : (k.scanner s).cursor = k.cursor s.cursor := rfl

@[simp] theorem cursor_ahead (c : Cursor) : (k.cursor c).ahead = c.ahead := rfl

@[simp] theorem cursor_pos (c : Cursor) : (k.cursor c).pos = c.pos + k.offset := rfl

@[simp] theorem cursor_advance (c : Cursor) (n : Nat) :
    (k.cursor c).advance n = k.cursor (c.advance n) := by
  simp only [cursor, Cursor.advance, Nat.add_right_comm]

theorem length_levels (levels : List Level) : (k.levels levels).length = levels.length := by
  induction levels with
  | nil => rfl
  | cons level outer ih => rw [Sequel.levels, List.length_cons, ih, List.length_cons]

/-- Nothing stands in front of a row inside a bracket. -/
theorem row_inside (level : Level) (outer : List Level) (r : Row) :
    k.row (level :: outer) r = r := by
  simp [row, below, Row.empty]

theorem scanner_add (s : Scanner) (token : Token) (c : Cursor) :
    (k.scanner s).add token (k.cursor c) = k.scanner (s.add token c) := by
  simp [Scanner.add, scanner, row, Row.push]

theorem takeOver_add (s : Scanner) (token : Token) (c : Cursor) :
    .ok (.more ((k.scanner s).add token (k.cursor c))) =
      takeOver k.offset k.progress (.ok (.more (s.add token c))) :=
  congrArg (Except.ok ∘ Progress.more) (k.scanner_add s token c)

theorem statement_row (r : Row) : (k.row [] r).statement = k.statement r.statement := by
  simp [row, below, Row.statement, statement, Statement.append]

/-! ## Tokens further on -/

theorem readNumber_further (c : Cursor) :
    readNumber (k.cursor c) =
      takeOver k.offset (fun read => (read.1, k.cursor read.2)) (readNumber c) := by
  unfold readNumber
  simp only [cursor_ahead, cursor_pos, cursor_advance]
  split
  · rfl
  split
  · rfl
  · rfl

theorem readString_further (c : Cursor) (quote : Char) :
    readString (k.cursor c) quote =
      takeOver k.offset (fun read => (read.1, k.cursor read.2)) (readString c quote) := by
  unfold readString
  simp only [cursor_ahead, cursor_pos]
  split
  · rfl
  · simp only [takeOver, cursor, Nat.add_right_comm _ k.offset]

theorem followName_further (store : Store) (chars : List Char) :
    ∀ (scope : ScopeId) (name : String) (pos : Nat),
      followName store scope name (pos + k.offset) chars =
        takeOver k.offset (fun read => (read.1, k.cursor read.2))
          (followName store scope name pos chars) := by
  induction chars with
  | nil => exact fun _ _ _ => rfl
  | cons c rest ih =>
    intro scope name pos
    rw [followName, followName, Nat.add_right_comm]
    split
    · exact ih _ _ _
    split
    · have inside := store.proper_stepInto scope name
      split
      · rename_i failed
        exact takeOver_of_values (inside.fault failed) k.offset _
      · exact ih _ _ _
    · rfl

theorem readName_further (store : Store) (scope : ScopeId) (c : Cursor) :
    readName store scope (k.cursor c) =
      takeOver k.offset (fun read => (read.1, k.cursor read.2)) (readName store scope c) :=
  k.followName_further store c.ahead scope "" c.pos

/-! ## One step -/

variable {s : Scanner} {setting : Setting}

theorem enter_further (opening : Opening) (c : Cursor) :
    (k.scanner s).enter setting (opening.shift k.offset) (k.cursor c) =
      takeOver k.offset k.progress (s.enter setting opening c) := by
  unfold Scanner.enter
  simp only [scanner, k.length_levels]
  split
  · rfl
  · simp only [takeOver, progress, scanner, row_inside, levels]

theorem name_further :
    Action.TakenOver k.offset k.progress (s.name setting) ((k.scanner s).name setting) := by
  refine .ask fun store => ?_
  rw [scanner_cursor, readName_further]
  cases readName store setting.home s.cursor with
  | error fault => rfl
  | ok read =>
    obtain ⟨label, cursor⟩ := read
    have called := store.proper_resolve label.scope label.name
    simp only [takeOver, cursor_ahead, cursor_advance]
    split
    · cases resolved : label.resolve store with
      | error fault => exact takeOver_of_values (called.fault resolved) k.offset k.progress
      | ok value =>
        cases value with
        | routine routine => exact k.enter_further (.call routine) _
        | _ => rfl
    · exact k.takeOver_add s _ _

/-- What stands in front of a row is no operand. -/
theorem below_ends {outer : List Level} {token : Token} {earlier : List Token}
    (last : (k.below outer).tokens = token :: earlier) : token.isOperator = true := by
  cases outer with
  | nil => exact k.ends token (by rw [show k.base.tokens = token :: earlier from last]; rfl)
  | cons level outer => cases last

theorem factorial_further :
    Action.TakenOver k.offset k.progress s.factorial (k.scanner s).factorial := by
  refine .ask fun store => ?_
  simp only [scanner, row]
  cases tokens : s.row.tokens with
  | nil =>
    -- The factorial looks back at what stands in front of the row, where there is no operand.
    rw [List.nil_append]
    cases last : (k.below s.levels).tokens with
    | nil => rfl
    | cons token earlier =>
      have operator := k.below_ends last
      cases token with
      | operator op => rfl
      | value v => cases operator
      | label l => cases operator
  | cons token earlier =>
    have resolved := token.proper_resolved store
    cases token with
    | operator op => rfl
    | _ =>
      simp only [List.cons_append, cursor_advance]
      split
      · rename_i failed
        exact takeOver_of_values (resolved.fault failed) k.offset _
      split
      · rfl
      split
      · rfl
      · rfl

theorem afterGate_further (result : Value) :
    (k.scanner s).afterGate setting result =
      takeOver k.offset k.progress (s.afterGate setting result) := by
  have truth := result.proper_asBool
  unfold Scanner.afterGate
  simp only [scanner_cursor, cursor_ahead, cursor_advance, cursor_pos]
  split
  · split
    · rename_i failed
      exact takeOver_of_values (truth.fault failed) k.offset _
    · exact k.enter_further .block _
    · split
      · rfl
      · exact k.takeOver_add s _ _
  · exact k.takeOver_add s _ _

theorem resume_further (opening : Opening) (values : List Value) :
    Action.TakenOver k.offset k.progress (s.resume setting opening values)
      ((k.scanner s).resume setting (opening.shift k.offset) values) := by
  have added (v : Value) : Action.TakenOver k.offset k.progress
      (return .more (s.add (.value v) s.cursor))
      (return .more ((k.scanner s).add (.value v) (k.scanner s).cursor)) := by
    rw [scanner_cursor, scanner_add]
    exact .pure _
  cases opening with
  | group pos =>
    simp only [Scanner.resume, Opening.shift]
    split
    · exact added _
    · exact .fail _
  | array => exact added _
  | block => exact added _
  | call routine =>
    refine .bind (.of_calls (routine.ofCalls_call setting.home values) k.offset) ?_
    intro result _ _ _
    simp only [id]
    split
    · exact .ofExcept (k.afterGate_further result)
    · exact added result

theorem close_further (mirrored : s.row.Mirrored) (c : Char) :
    Action.TakenOver k.offset k.progress (s.close setting c) ((k.scanner s).close setting c) := by
  unfold Scanner.close
  cases inside : s.levels with
  | nil =>
    simp only [scanner, inside, levels]
    exact .fail _
  | cons level outer =>
    -- The present row is one inside a bracket, so nothing stands in front of it.
    have present : (k.scanner s).statement = s.statement := by
      rw [Scanner.statement, scanner, inside, row_inside, Scanner.statement]
    have around : (k.scanner s).levels =
        ⟨level.opening.shift k.offset, k.row outer level.suspended⟩ :: k.levels outer := by
      rw [scanner, inside, levels]
    simp only [present, around, Opening.closer_shift, scanner_cursor, cursor_advance]
    split
    · refine .bind (.of_proper mirrored.statement.ensures_evaluate k.offset) ?_
      intro values _ _ _
      exact k.resume_further (s := ⟨s.cursor.advance 1, level.suspended, outer⟩) _ values
    · exact .fail _

theorem symbol_further (mirrored : s.row.Mirrored) (c : Char) (rest : List Char) :
    Action.TakenOver k.offset k.progress (s.symbol setting c rest)
      ((k.scanner s).symbol setting c rest) := by
  unfold Scanner.symbol
  simp only [scanner_cursor, cursor_advance, scanner_add]
  split
  · exact .pure _
  split
  · rw [readString_further]
    refine .bind (.ofExcept rfl) ?_
    rintro ⟨text, cursor⟩ _ _ _
    rw [scanner_add]
    exact .pure _
  split
  · exact .ofExcept (k.enter_further (.group s.cursor.pos) _)
  split
  · exact .ofExcept (k.enter_further .array _)
  split
  · exact .fail _
  split
  · exact k.close_further mirrored c
  split
  · exact k.factorial_further
  · exact .fail _

/-- A step does further on what it does with the text alone. -/
theorem step_further (setting : Setting) (mirrored : s.row.Mirrored) :
    Action.TakenOver k.offset k.progress (s.step setting) ((k.scanner s).step setting) := by
  unfold Scanner.step
  simp only [scanner_cursor, cursor_ahead, cursor_advance]
  split
  · cases inside : s.levels with
    | nil =>
      have whole : (k.scanner s).statement = k.statement s.statement := by
        rw [Scanner.statement, scanner, inside, statement_row, Scanner.statement]
      have around : (k.scanner s).levels = [] := by rw [scanner, inside, levels]
      simp only [whole, around]
      exact .pure _
    | cons level outer =>
      simp only [scanner, inside, levels, Opening.closer_shift]
      exact .fail _
  · split
    · exact .pure _
    split
    · rw [readNumber_further]
      refine .bind (.ofExcept rfl) ?_
      rintro ⟨n, cursor⟩ _ _ _
      rw [scanner_add]
      exact .pure _
    split
    · exact k.name_further
    · exact k.symbol_further mirrored _ _

/-- So does a run, by induction on the characters ahead. -/
theorem run_further (setting : Setting) (mirrored : s.Mirrored) :
    Action.TakenOver k.offset k.statement (s.run setting) ((k.scanner s).run setting) := by
  induction length : s.cursor.ahead.length using Nat.strongRecOn generalizing s with
  | ind _ ih =>
    rw [Scanner.run_eq, Scanner.run_eq]
    refine .bind (k.step_further setting mirrored.row) fun progress store after stepped => ?_
    cases progress with
    | done st => exact .pure st
    | more next =>
      have shorter := Scanner.step_shorter stepped
      exact ih _ (by omega) (mirrored.step stepped) rfl

end Sequel

/-! ## Two texts -/

theorem Row.statement_push (row : Row) (token : Token) :
    (row.push token).statement = row.statement.push token := by
  cases token <;> simp [Row.push, Row.statement, Statement.push, Token.operator?]

/-- Two texts with a comma in between: the second is read on behind the first. -/
theorem scan_joined {setting : Setting} {first : List Char} {store between : Store}
    {st : Statement} (scanned : scan setting (.ofText first 0) store = (.ok st, between))
    (second : List Char) :
    ∃ offset, scan setting (.ofText (first ++ ',' :: second) 0) store =
      (takeOver offset (st.push (.operator .separator)).append
        (scan setting (.ofText second 0) between).1,
        (scan setting (.ofText second 0) between).2) := by
  let place : Placement := ⟨0, ',' :: second, [], ',', by decide, rfl⟩
  obtain ⟨last, same, outermost, ahead, reaches⟩ :=
    place.reaches_behind (Scanner.mirrored_start _) scanned
  have start : place.scanner ⟨.ofText first 0, .empty, []⟩ =
      ⟨.ofText (first ++ ',' :: second) 0, .empty, []⟩ := by
    simp [place, Placement.scanner, Placement.cursor, Cursor.ofText]
  have comma : last.step setting between =
      (.ok (.more (last.add (.operator .separator) (last.cursor.advance 1))), between) := by
    unfold Scanner.step
    rw [ahead]
    rfl
  let sequel : Sequel :=
    ⟨last.cursor.pos + 1, last.row.push (.operator .separator), fun _ found => by cases found; rfl⟩
  have onwards : last.add (.operator .separator) (last.cursor.advance 1) =
      sequel.scanner ⟨.ofText second 0, .empty, []⟩ := by
    simp [sequel, Sequel.scanner, Sequel.cursor, Sequel.row, Sequel.below, Sequel.levels,
      Scanner.add, Cursor.advance, Cursor.ofText, Row.empty, ahead, outermost, place]
  have whole : sequel.statement = (st.push (.operator .separator)).append := by
    funext later
    rw [Sequel.statement, Row.statement_push, ← same]
    rfl
  refine ⟨sequel.offset, ?_⟩
  calc scan setting (.ofText (first ++ ',' :: second) 0) store
      = last.run setting between := (congrArg (Scanner.run setting · store) start).symm.trans
        reaches.run_eq
    _ = (sequel.scanner ⟨.ofText second 0, .empty, []⟩).run setting between :=
        (Scanner.run_of_step comma).trans (congrArg (Scanner.run setting · between) onwards)
    _ = _ := by
      rw [sequel.run_further setting (Scanner.mirrored_start _) between, whole]
      rfl

theorem Draft.chain_ok {draft chained : Draft} (chains : draft.chain = .ok chained) :
    chained = { draft with statement := draft.statement.push (.operator .separator) } := by
  unfold Draft.chain at chains
  cases found : draft.statement.chain with
  | error fault =>
    rw [found] at chains
    cases chains
  | ok st =>
    rw [found] at chains
    cases chains
    rw [(Statement.chain_ok found).2]

/-- Chaining agrees with writing a separator.  If a text is read into an empty draft and a separator
can be chained, then reading a second text into the draft has the same outcome as reading the two
with a comma in between into an empty draft, from the store that there was before the first: they
succeed together, with the same tokens and operators, or fail with the same code, and leave the same
store. -/
theorem chain_agrees_with_separator (home : ScopeId) (maxDepth : Nat) (first second : String)
    {store between : Store} {draft chained : Draft}
    (read : (Draft.new home maxDepth).read first store = (.ok draft, between))
    (chains : draft.chain = .ok chained) :
    let apart := chained.read second between
    let joined := (Draft.new home maxDepth).read (first ++ "," ++ second) store
    (∀ edited, apart.1 = .ok edited ↔ joined.1 = .ok edited) ∧
    (∀ fault, apart.1 = .error fault → ∃ other, joined.1 = .error other ∧ other.code = fault.code) ∧
    apart.2 = joined.2 := by
  intro apart joined
  obtain ⟨st, _, scanned, finished⟩ := Action.bind_ok read
  cases finished
  cases Draft.chain_ok chains
  obtain ⟨offset, both⟩ := scan_joined scanned second.toList
  have text : (first ++ "," ++ second).toList = first.toList ++ ',' :: second.toList := by simp
  rw [← text] at both
  cases later : scan ⟨home, maxDepth⟩ (.ofText second.toList 0) between with
  | mk result after =>
    have alone : scan (Draft.new home maxDepth).setting (.ofText second.toList 0) between =
        (result, after) := later
    rw [alone] at both
    cases result with
    | ok added =>
      let edited : Draft := ⟨⟨home, maxDepth⟩, (st.push (.operator .separator)).append added⟩
      have apart_ok : apart = (.ok edited, after) := Action.bind_of_ok later
      have joined_ok : joined = (.ok edited, after) := Action.bind_of_ok both
      rw [apart_ok, joined_ok]
      refine ⟨fun _ => Iff.rfl, ?_, rfl⟩
      intro fault failed
      cases failed
    | error fault =>
      have apart_failed : apart = (.error fault, after) := Action.bind_of_error later
      have joined_failed : joined = (.error (fault.shift offset), after) :=
        Action.bind_of_error both
      rw [apart_failed, joined_failed]
      refine ⟨fun edited => ?_, ?_, rfl⟩
      · constructor <;> intro done <;> cases done
      · rintro _ ⟨⟩
        exact ⟨_, rfl, fault.code_shift offset⟩

/-- A factorial at the start of the second text finds no operand behind the separator either. -/
theorem chain_agrees_with_separator_factorial :
    let start := Draft.new ⟨0⟩ 1
    let single : Draft := ⟨start.setting, [.value (.string "a")], []⟩
    let chained : Draft := ⟨start.setting, [.value (.string "a"), .operator .separator],
      [.separator]⟩
    start.read "'a'" Store.empty = (.ok single, Store.empty) ∧ single.chain = .ok chained ∧
    (chained.read "!" Store.empty).1 = .error (.factorialOperand 0) ∧
    ∃ other, (start.read "'a',!" Store.empty).1 = .error other ∧ other.code.number = 150 := by
  intro start single chained
  have read : start.read "'a'" Store.empty = (.ok single, Store.empty) := by cbv
  have chains : single.chain = .ok chained := rfl
  have failed : (chained.read "!" Store.empty).1 = .error (.factorialOperand 0) := by cbv
  obtain ⟨other, same, code⟩ :=
    (chain_agrees_with_separator ⟨0⟩ 1 "'a'" "!" read chains).2.1 _ failed
  exact ⟨read, chains, failed, other, same, by rw [code]; rfl⟩

end Scriptlet
