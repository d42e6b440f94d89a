import Scriptlet.Options
import Scriptlet.Proofs.Lockstep.Scanning
import Scriptlet.Proofs.Outcomes
set_option autoImplicit false

/-!
# What a step of the scanner can do

A step passes over a blank, adds a token to the row, puts a value in the place of the last operand,
opens a level behind an opening bracket, or closes one and goes on with the row that was suspended.
It fails with the fault of a token, because the text goes astray from the open brackets, or because
the brackets ahead need more levels than there are.
What is kept by each of these moves is kept by the scanner on every line.
-/

namespace Scriptlet

/-! ## Rows that list their operators -/

/-- The operators beside a row are those among its tokens, in the same order. -/
def Row.Mirrored (row : Row) : Prop := row.operators = row.tokens.filterMap Token.operator?

namespace Row

theorem mirrored_empty : empty.Mirrored := rfl

theorem Mirrored.push {row : Row} (mirrored : row.Mirrored) (token : Token) :
    (row.push token).Mirrored := by
  rw [Row.Mirrored, Row.push, mirrored, Token.filterMap_operator?_cons]

/-- An operand takes the place of an operand. -/
theorem Mirrored.replace {row : Row} (mirrored : row.Mirrored) {old : Token}
    {earlier : List Token} (last : row.tokens = old :: earlier) (operand : old.operator? = none)
    (v : Value) : Row.Mirrored { row with tokens := .value v :: earlier } := by
  rw [Row.Mirrored, last, List.filterMap_cons_none operand] at mirrored
  rw [Row.Mirrored, List.filterMap_cons_none rfl]
  exact mirrored

theorem Mirrored.statement {row : Row} (mirrored : row.Mirrored) : row.statement.Mirrored := by
  rw [Statement.Mirrored, Row.statement, mirrored, List.filterMap_reverse]

end Row

/-! ## Moves -/

/-- The brackets that open a level. -/
def isOpening (c : Char) : Bool := c == '(' || c == '[' || c == '\x7b'

/-- How many brackets of a text could open a level. -/
def openings (text : List Char) : Nat := text.countP isOpening

namespace Scanner

/-- What a step that leaves more to read has done, under a limit on nesting. -/
inductive Moves (limit : Nat) : Scanner → Scanner → Prop where
  /-- a blank was passed over -/
  | skip {s : Scanner} {cursor : Cursor} (ahead : cursor.ahead <:+ s.cursor.ahead) :
      Moves limit s { s with cursor }
  /-- a token was added to the row -/
  | add {s : Scanner} (token : Token) {cursor : Cursor} (ahead : cursor.ahead <:+ s.cursor.ahead) :
      Moves limit s (s.add token cursor)
  /-- a value took the place of the last operand -/
  | replace {s : Scanner} {old : Token} {earlier : List Token} {cursor : Cursor} (v : Value)
      (last : s.row.tokens = old :: earlier) (operand : old.operator? = none)
      (ahead : cursor.ahead <:+ s.cursor.ahead) :
      Moves limit s { s with row := { s.row with tokens := .value v :: earlier }, cursor }
  /-- a level was opened behind an opening bracket -/
  | enter {s : Scanner} (opening : Opening) {c : Char} {cursor : Cursor}
      (bracket : isOpening c = true) (ahead : c :: cursor.ahead <:+ s.cursor.ahead)
      (below : s.levels.length < limit) :
      Moves limit s ⟨cursor, .empty, ⟨opening, s.row⟩ :: s.levels⟩
  /-- the present level was closed, and the suspended row went on -/
  | close {s next : Scanner} {level : Level} {outer : List Level}
      (levels : s.levels = level :: outer)
      (moves : Moves limit ⟨s.cursor.advance 1, level.suspended, outer⟩ next) : Moves limit s next

/-- The scanner goes on after one of its moves. -/
inductive GoesOn (s : Scanner) (limit : Nat) : Progress → Prop where
  | more {next : Scanner} (moves : s.Moves limit next) : GoesOn s limit (.more next)

/-- What a step comes to: a move or, outside all brackets, the statement that was read. -/
def Steps (s : Scanner) (limit : Nat) (progress : Progress) : Prop :=
  s.GoesOn limit progress ∨ (s.levels = [] ∧ progress = .done s.statement)

/-- The text ahead does not go on as the open brackets ask. -/
inductive Astray : Scanner → Prop where
  /-- it ends inside a bracket -/
  | ended {s : Scanner} (ahead : s.cursor.ahead = []) (inside : s.levels ≠ []) : Astray s
  /-- it closes a bracket, but not the last one that was opened -/
  | closing {s : Scanner} {c : Char} (here : s.cursor.ahead.head? = some c)
      (bracket : c = ')' ∨ c = ']' ∨ c = '\x7d')
      (other : ∀ level ∈ s.levels.head?, level.opening.closer ≠ c) : Astray s
  /-- a block begins, perhaps behind blanks -/
  | block {s : Scanner} (brace : (s.cursor.ahead.dropWhile isBlank).head? = some '\x7b') : Astray s
  /-- it closes the last bracket that was opened, and is astray behind it -/
  | closed {s : Scanner} {level : Level} {outer : List Level}
      (levels : s.levels = level :: outer)
      (here : s.cursor.ahead.head? = some level.opening.closer)
      (astray : Astray ⟨s.cursor.advance 1, level.suspended, outer⟩) : Astray s

/-- There are levels enough for all brackets ahead. -/
def Room (s : Scanner) (limit : Nat) : Prop :=
  s.levels.length + openings s.cursor.ahead ≤ limit

/-- Why a step fails. -/
inductive Stops (s : Scanner) (limit : Nat) : Fault → Prop where
  /-- for a reason that lies in a token -/
  | token {fault : Fault} (tokens : fault.OfTokens) : Stops s limit fault
  /-- for a bracket that does not fit -/
  | bracket {fault : Fault} (brackets : fault.OfBrackets) (astray : s.Astray) : Stops s limit fault
  /-- for want of levels -/
  | deep (crowded : ¬ s.Room limit) : Stops s limit (.tooDeep limit)

end Scanner

/-! ## Places -/

theorem Cursor.advance_suffix (c : Cursor) (n : Nat) : (c.advance n).ahead <:+ c.ahead :=
  List.drop_suffix n c.ahead

theorem Cursor.cons_advance {c : Cursor} {bracket : Char} (here : c.ahead.head? = some bracket) :
    bracket :: (c.advance 1).ahead = c.ahead := by
  obtain ⟨rest, found⟩ := List.head?_eq_some_iff.mp here
  rw [Cursor.advance, found]
  rfl

theorem Cursor.ahead_advance_takeWhile (c : Cursor) (p : Char → Bool) :
    (c.advance (c.ahead.takeWhile p).length).ahead = c.ahead.dropWhile p := by
  have cut : (c.ahead.takeWhile p ++ c.ahead.dropWhile p).drop (c.ahead.takeWhile p).length =
      c.ahead.dropWhile p := List.drop_left
  rwa [List.takeWhile_append_dropWhile] at cut

theorem openings_le_of_suffix {text whole : List Char} (suffix : text <:+ whole) :
    openings text ≤ openings whole :=
  suffix.sublist.countP_le

/-- An opening bracket in front counts for one. -/
theorem openings_lt_of_suffix {c : Char} {text whole : List Char} (bracket : isOpening c = true)
    (suffix : c :: text <:+ whole) : openings text < openings whole := by
  have counted := openings_le_of_suffix suffix
  rw [openings, List.countP_cons_of_pos bracket] at counted
  exact counted

theorem meets_readNumber (place : Cursor) :
    Meets (fun read => read.2.ahead <:+ place.ahead) Fault.OfTokens (readNumber place) := by
  rw [readNumber]
  split
  · exact .error trivial
  split
  · exact .error trivial
  · exact .ok (place.advance_suffix _)

theorem meets_readString (place : Cursor) (quote : Char) :
    Meets (fun read => read.2.ahead <:+ place.ahead) Fault.OfTokens (readString place quote) := by
  unfold readString
  simp only
  split
  · exact .error trivial
  · rename_i c rest found
    have inner : c :: rest <:+ place.ahead.drop 1 := found ▸ List.dropWhile_suffix _
    exact .ok ((List.suffix_cons c rest).trans (inner.trans (List.drop_suffix 1 place.ahead)))

theorem Store.proper_stepInto (store : Store) (scope : ScopeId) (name : String) :
    Proper (store.stepInto scope name) := by
  have resolved := store.proper_resolve scope name
  rw [Store.stepInto]
  split
  · rename_i failed
    exact .error (resolved.fault failed)
  · exact .pure _
  · exact .error trivial

theorem meets_followName (store : Store) (chars : List Char) :
    ∀ (scope : ScopeId) (name : String) (pos : Nat),
      Meets (fun read => read.2.ahead <:+ chars) Fault.OfValues
        (followName store scope name pos chars) := by
  induction chars with
  | nil =>
    intro scope name pos
    exact .ok (List.suffix_refl _)
  | cons c rest ih =>
    intro scope name pos
    have later (scope : ScopeId) (name : String) (pos : Nat) :
        Meets (fun read => read.2.ahead <:+ c :: rest) Fault.OfValues
          (followName store scope name pos rest) :=
      (ih scope name pos).mono (fun _ ahead => ahead.trans (List.suffix_cons c rest)) fun _ => id
    have inside := store.proper_stepInto scope name
    rw [followName]
    split
    · exact later _ _ _
    split
    · split
      · rename_i failed
        exact .error (inside.fault failed)
      · exact later _ _ _
    · exact .ok (List.suffix_refl _)

/-! ## One step -/

namespace Scanner

variable {s : Scanner} {setting : Setting}

/-- The fault of a token is a reason for a step to fail. -/
theorem stops_of_tokens (s : Scanner) (limit : Nat) {α : Type} {good : α → Prop} {a : Action α}
    (ensures : a.Ensures good Fault.OfTokens) : a.Ensures good (s.Stops limit) :=
  ensures.mono (fun _ => id) fun _ => .token

/-- A level is opened if there is room for the bracket that opens it. -/
theorem meets_enter (opening : Opening) {c : Char} {cursor : Cursor}
    (bracket : isOpening c = true) (ahead : c :: cursor.ahead <:+ s.cursor.ahead) :
    Meets (s.GoesOn setting.maxDepth) (s.Stops setting.maxDepth)
      (s.enter setting opening cursor) := by
  rw [enter]
  split
  · rename_i deep
    refine .error (.deep fun room => ?_)
    have counted := openings_lt_of_suffix bracket ahead
    unfold Room at room
    omega
  · exact .ok (.more (.enter opening bracket ahead (by omega)))

theorem ensures_name :
    (s.name setting).Ensures (s.GoesOn setting.maxDepth) (s.Stops setting.maxDepth) := by
  refine .ask fun store => ?_
  have read := meets_followName store s.cursor.ahead setting.home "" s.cursor.pos
  rw [← readName] at read
  split
  · rename_i failed
    exact .error (.token (read.fault failed).ofTokens)
  · rename_i label cursor found
    have ahead := read.result found
    split
    · rename_i here
      have called := store.proper_resolve label.scope label.name
      split
      · rename_i failed
        exact .error (.token (called.fault failed).ofTokens)
      · exact meets_enter _ rfl ((Cursor.cons_advance here).symm ▸ ahead)
      · exact .error (.token trivial)
    · exact .ok (.more (.add _ ahead))

theorem ensures_factorial :
    s.factorial.Ensures (s.GoesOn setting.maxDepth) (s.Stops setting.maxDepth) := by
  refine .ask fun store => ?_
  split
  · exact .error (.token trivial)
  · exact .error (.token trivial)
  · rename_i token earlier operand last
    have resolved := token.proper_resolved store
    split
    · rename_i failed
      exact .error (.token (resolved.fault failed).ofTokens)
    split
    · exact .error (.token trivial)
    split
    · exact .error (.token trivial)
    · refine .ok (.more (.replace _ last ?_ (s.cursor.advance_suffix 1)))
      cases token with
      | value v => rfl
      | label l => rfl
      | operator op => exact absurd rfl (operand op)

theorem meets_afterGate (result : Value) :
    Meets (s.GoesOn setting.maxDepth) (s.Stops setting.maxDepth) (s.afterGate setting result) := by
  have truth := result.proper_asBool
  have blanks := s.cursor.advance_suffix (s.cursor.ahead.takeWhile isBlank).length
  rw [afterGate]
  split
  · rename_i here
    split
    · rename_i failed
      exact .error (.token (truth.fault failed).ofTokens)
    · exact meets_enter _ rfl ((Cursor.cons_advance here).symm ▸ blanks)
    · split
      · rw [Cursor.ahead_advance_takeWhile] at here
        exact .error (.bracket trivial (.block here))
      · exact .ok (.more (.add _ ((Cursor.advance_suffix _ _).trans blanks)))
  · exact .ok (.more (.add _ (List.suffix_refl _)))

theorem ensures_resume (opening : Opening) (values : List Value) :
    (s.resume setting opening values).Ensures (s.GoesOn setting.maxDepth)
      (s.Stops setting.maxDepth) := by
  have added (v : Value) : s.GoesOn setting.maxDepth (.more (s.add (.value v) s.cursor)) :=
    .more (.add _ (List.suffix_refl _))
  unfold resume
  split
  · split
    · exact .pure (added _)
    · exact .fail (.token trivial)
  · exact .pure (added _)
  · exact .pure (added _)
  · rename_i routine
    have called := s.stops_of_tokens setting.maxDepth
      ((routine.ofCalls_call setting.home values).mono (fun _ => id) fun _ calls => calls.ofTokens)
    refine called.bind fun result _ => ?_
    split
    · exact .ofExcept (meets_afterGate result)
    · exact .pure (added result)

/-- A bracket that closes uses up a level and a character. -/
theorem Room.closed {limit : Nat} {level : Level} {outer : List Level} (room : s.Room limit)
    (levels : s.levels = level :: outer) :
    Room ⟨s.cursor.advance 1, level.suspended, outer⟩ limit := by
  have fewer := openings_le_of_suffix (s.cursor.advance_suffix 1)
  unfold Room at room ⊢
  rw [levels, List.length_cons] at room
  simp only
  omega

theorem ensures_close (mirrored : s.row.Mirrored) {c : Char}
    (here : s.cursor.ahead.head? = some c) (bracket : c = ')' ∨ c = ']' ∨ c = '\x7d') :
    (s.close setting c).Ensures (s.GoesOn setting.maxDepth) (s.Stops setting.maxDepth) := by
  unfold close
  split
  · rename_i levels
    refine .fail (.bracket trivial (.closing here bracket ?_))
    rw [levels]
    exact fun _ member => by cases member
  · rename_i level outer levels
    split
    · rename_i closes
      have evaluated := s.stops_of_tokens setting.maxDepth
        mirrored.statement.ensures_evaluate.ofTokens
      refine evaluated.bind fun values _ => ?_
      refine (ensures_resume level.opening values).mono ?_ ?_
      · rintro progress ⟨moves⟩
        exact .more (.close levels moves)
      · rintro fault (tokens | ⟨brackets, astray⟩ | crowded)
        · exact .token tokens
        · exact .bracket brackets (.closed levels (closes ▸ here) astray)
        · exact .deep fun room => crowded (room.closed levels)
    · rename_i other
      refine .fail (.bracket trivial (.closing here bracket ?_))
      rw [levels]
      rintro _ ⟨⟩ same
      exact other same.symm

theorem ensures_symbol (mirrored : s.row.Mirrored) {c : Char} {rest : List Char}
    (ahead : s.cursor.ahead = c :: rest) :
    (s.symbol setting c rest).Ensures (s.GoesOn setting.maxDepth)
      (s.Stops setting.maxDepth) := by
  have here : s.cursor.ahead.head? = some c := by rw [ahead]; rfl
  have entered (opening : Opening) (bracket : isOpening c = true) :
      (Action.ofExcept (s.enter setting opening (s.cursor.advance 1))).Ensures
        (s.GoesOn setting.maxDepth) (s.Stops setting.maxDepth) := by
    exact .ofExcept (meets_enter opening bracket
      ((Cursor.cons_advance here).symm ▸ List.suffix_refl _))
  unfold symbol
  split
  · exact .pure (.more (.add _ (s.cursor.advance_suffix _)))
  split
  · refine (s.stops_of_tokens _ (.ofExcept (meets_readString s.cursor c))).bind ?_
    rintro ⟨text, cursor⟩ further
    exact .pure (.more (.add _ further))
  split
  · rename_i bracket
    exact entered _ (by rw [bracket]; rfl)
  split
  · rename_i bracket
    exact entered _ (by rw [bracket]; rfl)
  split
  · exact .fail (.token trivial)
  split
  · rename_i bracket
    exact ensures_close mirrored here bracket
  split
  · exact ensures_factorial
  · exact .fail (.token trivial)

/-- A scanner whose row lists its operators makes one of the moves, or has read its statement, or
fails for one of the reasons above. -/
theorem ensures_step (setting : Setting) (mirrored : s.row.Mirrored) :
    (s.step setting).Ensures (s.Steps setting.maxDepth) (s.Stops setting.maxDepth) := by
  have goesOn {a : Action Progress}
      (ensures : a.Ensures (s.GoesOn setting.maxDepth) (s.Stops setting.maxDepth)) :
      a.Ensures (s.Steps setting.maxDepth) (s.Stops setting.maxDepth) :=
    ensures.mono (fun _ => .inl) fun _ => id
  unfold step
  split
  · rename_i ahead
    split
    · rename_i outside
      exact .pure (.inr ⟨outside, rfl⟩)
    · rename_i inside
      exact .fail (.bracket trivial (.ended ahead (by rw [inside]; exact List.cons_ne_nil _ _)))
  · rename_i c rest ahead
    split
    · exact .pure (.inl (.more (.skip (s.cursor.advance_suffix 1))))
    split
    · refine (s.stops_of_tokens _ (.ofExcept (meets_readNumber s.cursor))).bind ?_
      rintro ⟨n, cursor⟩ further
      exact .pure (.inl (.more (.add _ further)))
    split
    · exact goesOn ensures_name
    · exact goesOn (ensures_symbol mirrored ahead)

/-! ## To the end of a line -/

/-- What the scanner keeps: its row, and every row that was suspended, lists its operators. -/
structure Mirrored (s : Scanner) : Prop where
  row : s.row.Mirrored
  levels : ∀ level ∈ s.levels, level.suspended.Mirrored

theorem mirrored_start (cursor : Cursor) : Mirrored ⟨cursor, .empty, []⟩ :=
  ⟨Row.mirrored_empty, fun _ member => by cases member⟩

/-- What one move preserves. -/
theorem Mirrored.moves {next : Scanner} {limit : Nat} (mirrored : s.Mirrored)
    (moves : s.Moves limit next) : next.Mirrored := by
  induction moves with
  | skip _ => exact ⟨mirrored.row, mirrored.levels⟩
  | add token _ => exact ⟨mirrored.row.push token, mirrored.levels⟩
  | replace v last operand _ => exact ⟨mirrored.row.replace last operand v, mirrored.levels⟩
  | enter opening _ _ _ =>
    exact ⟨Row.mirrored_empty, List.forall_mem_cons.mpr ⟨mirrored.row, mirrored.levels⟩⟩
  | close levels _ ih =>
    have suspended := List.forall_mem_cons.mp (levels ▸ mirrored.levels)
    exact ih ⟨suspended.1, suspended.2⟩

/-- What every move preserves holds at the end of the line, and the faults on the way are those
that a step can have. -/
theorem ensures_run {holds : Scanner → Prop} {bad : Fault → Prop}
    (moves : ∀ {s next : Scanner}, holds s → s.Moves setting.maxDepth next → holds next)
    (stops : ∀ {s : Scanner} {fault : Fault}, holds s → s.Stops setting.maxDepth fault → bad fault)
    (mirrored : s.Mirrored) (start : holds s) :
    Action.Ensures (s.run setting) Statement.Mirrored bad := by
  -- Each step that leaves more to read has read a character.
  induction length : s.cursor.ahead.length using Nat.strongRecOn generalizing s with
  | ind _ ih =>
    rw [run_eq]
    have step := (ensures_step setting mirrored.row).produced
    refine (step.mono (fun _ => id) fun _ => stops start).bind ?_
    rintro progress ⟨came, store, after, stepped⟩
    rcases came with went | ⟨_, rfl⟩
    · cases went with
      | more moved =>
        have shorter := step_shorter stepped
        exact ih _ (by omega) (mirrored.moves moved) (moves start moved) rfl
    · exact .pure mirrored.row.statement

end Scanner

end Scriptlet
