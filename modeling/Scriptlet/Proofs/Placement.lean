import Scriptlet.Proofs.Reading
set_option autoImplicit false

/-!
# A text inside another

A text that the scanner reads to its end is read in the same way where it stands inside a longer
one: further on, with something behind it, and with levels open around it.  What stands behind must
only be such that no token in front of it goes on: a closing bracket or a separator.  There the
scanner arrives with the row that it would have read from the text alone.
-/

namespace Scriptlet

/-- The characters that end every token in front of them. -/
def terminators : List Char := [')', ']', '\x7d', ',', ';']

/-- Where a text stands inside another: how many characters further on, in front of what, and with
which levels open around it. -/
structure Placement where
  offset : Nat
  behind : List Char
  around : List Level
  terminated : ∃ c ∈ terminators, behind.head? = some c

namespace Placement

/-- A place of the text, as a place of the longer one. -/
def cursor (p : Placement) (c : Cursor) : Cursor := ⟨c.pos + p.offset, c.ahead ++ p.behind⟩

/-- A bracket knows where it stands. -/
def opening (p : Placement) : Opening → Opening
  | .group pos => .group (pos + p.offset)
  | other => other

/-- A level inside the text keeps the row it suspends. -/
def level (p : Placement) (l : Level) : Level := ⟨p.opening l.opening, l.suspended⟩

/-- A scanner of the text, as a scanner of the longer one. -/
def scanner (p : Placement) (s : Scanner) : Scanner :=
  ⟨p.cursor s.cursor, s.row, s.levels.map p.level ++ p.around⟩

/-- The levels around leave as many for the text as it has alone. -/
def setting (p : Placement) (setting : Setting) : Setting :=
  { setting with maxDepth := setting.maxDepth + p.around.length }

variable (p : Placement)

@[simp] theorem setting_home (setting : Setting) : (p.setting setting).home = setting.home := rfl

theorem cursor_ahead (c : Cursor) : (p.cursor c).ahead = c.ahead ++ p.behind := rfl

@[simp] theorem scanner_cursor (s : Scanner) : (p.scanner s).cursor = p.cursor s.cursor := rfl

@[simp] theorem scanner_row (s : Scanner) : (p.scanner s).row = s.row := rfl

theorem closer_opening (opening : Opening) : (p.opening opening).closer = opening.closer := by
  cases opening <;> rfl

/-! ## What ends a token -/

/-- What holds of every terminator holds of what stands behind. -/
theorem behind_of {holds : Char → Bool} (all : terminators.all holds = true) {c : Char}
    (here : p.behind.head? = some c) : holds c = true := by
  obtain ⟨d, member, ends⟩ := p.terminated
  rw [ends] at here
  injection here with same
  exact same ▸ List.all_eq_true.mp all d member

theorem takeWhile_behind {f : Char → Bool} (apart : terminators.all (!f ·) = true)
    (text : List Char) : (text ++ p.behind).takeWhile f = text.takeWhile f := by
  have none_behind : p.behind.takeWhile f = [] := by
    cases behind : p.behind with
    | nil => rfl
    | cons c rest =>
      have ends : (!f c) = true := p.behind_of apart (by rw [behind]; rfl)
      exact List.takeWhile_cons_of_neg (by simpa using ends)
  rw [List.takeWhile_append, none_behind, List.append_nil]
  split
  · rename_i whole
    exact ((List.takeWhile_prefix f).eq_of_length whole).symm
  · rfl

/-- Any other character stands at a place of the longer text only if it stands there in the text. -/
theorem head?_cursor {d : Char} (apart : terminators.all (· != d) = true) (c : Cursor) :
    (p.cursor c).ahead.head? = some d ↔ c.ahead.head? = some d := by
  unfold cursor
  cases c.ahead with
  | nil =>
    exact ⟨fun here => absurd rfl (bne_iff_ne.mp (p.behind_of apart here)),
      fun none => by cases none⟩
  | cons first rest => rfl

theorem cursor_advance {c : Cursor} {n : Nat} (bound : n ≤ c.ahead.length) :
    (p.cursor c).advance n = p.cursor (c.advance n) := by
  simp only [cursor, Cursor.advance, List.drop_append_of_le_length bound, Nat.add_right_comm]

theorem cursor_advance_one {c : Cursor} {d : Char} (here : c.ahead.head? = some d) :
    (p.cursor c).advance 1 = p.cursor (c.advance 1) := by
  obtain ⟨rest, ahead⟩ := List.head?_eq_some_iff.mp here
  refine p.cursor_advance ?_
  rw [ahead]
  exact Nat.le_add_left 1 rest.length

/-! ## Tokens -/

theorem readNumber_placed {c after : Cursor} {n : Float} (read : readNumber c = .ok (n, after)) :
    readNumber (p.cursor c) = .ok (n, p.cursor after) := by
  have same : (p.cursor c).ahead.takeWhile isNumberChar = c.ahead.takeWhile isNumberChar :=
    p.takeWhile_behind (by decide) c.ahead
  unfold readNumber at read ⊢
  simp only [same] at read ⊢
  split at read
  · cases read
  rw [if_neg (by assumption)]
  split at read
  · cases read
  rw [if_neg (by assumption), p.cursor_advance (List.takeWhile_prefix _).length_le]
  cases read
  rfl

theorem readString_placed {c after : Cursor} {quote d : Char} {s : String}
    (here : c.ahead.head? = some d) (read : readString c quote = .ok (s, after)) :
    readString (p.cursor c) quote = .ok (s, p.cursor after) := by
  obtain ⟨rest, ahead⟩ := List.head?_eq_some_iff.mp here
  unfold readString at read ⊢
  simp only [cursor, ahead, List.cons_append, List.drop_one, List.tail_cons] at read ⊢
  cases ends : rest.dropWhile (· != quote) with
  | nil =>
    rw [ends] at read
    cases read
  | cons close behind =>
    have further : (rest ++ p.behind).dropWhile (· != quote) = close :: behind ++ p.behind := by
      rw [List.dropWhile_append, ends]
      rfl
    have inner : (rest ++ p.behind).takeWhile (· != quote) = rest.takeWhile (· != quote) := by
      have parts : rest.takeWhile (· != quote) ++ rest.dropWhile (· != quote) = rest :=
        List.takeWhile_append_dropWhile
      have split := congrArg List.length parts
      rw [List.length_append, ends, List.length_cons] at split
      rw [List.takeWhile_append, if_neg (by omega)]
    rw [ends] at read
    rw [further, inner]
    cases read
    simp only [List.cons_append, Nat.add_right_comm _ p.offset]

end Placement

/-- A name ends in front of what is no part of it. -/
theorem followName_append {store : Store} {chars behind : List Char} {label : Label}
    {after : Cursor} (offset : Nat)
    (ends : ∀ c, behind.head? = some c → isNamePart c = false ∧ c ≠ '.') :
    ∀ {scope : ScopeId} {name : String} {pos : Nat},
      followName store scope name pos chars = .ok (label, after) →
      followName store scope name (pos + offset) (chars ++ behind) =
        .ok (label, ⟨after.pos + offset, after.ahead ++ behind⟩) := by
  induction chars with
  | nil =>
    intro scope name pos read
    cases read
    cases behind with
    | nil => rfl
    | cons c rest =>
      obtain ⟨part, point⟩ := ends c rfl
      rw [List.nil_append, followName, part, if_neg Bool.false_ne_true, if_neg point]
  | cons c rest ih =>
    intro scope name pos read
    unfold followName at read
    rw [List.cons_append, followName]
    split at read
    · rw [if_pos (by assumption), Nat.add_right_comm]
      exact ih read
    rw [if_neg (by assumption)]
    split at read
    · rw [if_pos (by assumption)]
      split at read
      · cases read
      · rw [Nat.add_right_comm]
        exact ih read
    · rw [if_neg (by assumption)]
      cases read
      rfl

theorem operatorAt?_append {behind : List Char} (ends : behind.head? ≠ some '=') (c : Char)
    (rest : List Char) : operatorAt? c (rest ++ behind) = operatorAt? c rest := by
  have compound : ((rest ++ behind).head? == some '=') = (rest.head? == some '=') := by
    cases rest with
    | nil => exact beq_eq_false_iff_ne.mpr ends
    | cons d later => rfl
  unfold operatorAt?
  rw [compound]

theorem operatorAt?_width_le {c : Char} {rest : List Char} {op : Operator} {width : Nat}
    {place : Cursor} (ahead : place.ahead = c :: rest)
    (found : operatorAt? c rest = some (op, width)) : width ≤ place.ahead.length := by
  obtain ⟨text, _, reads⟩ := reads_operatorAt? ahead found
  have same : width = text.length := Nat.add_left_cancel reads.pos
  rw [same, reads.ahead, List.length_append]
  exact Nat.le_add_right _ _

/-- A block that is passed over ends where it did, whatever lies behind. -/
theorem blockLength?_append_of_some {chars : List Char} {state : Passing} {length : Nat}
    (found : blockLength? state chars = some length) (behind : List Char) :
    blockLength? state (chars ++ behind) = some length := by
  induction chars generalizing state length with
  | nil => cases found
  | cons c rest ih =>
    rw [List.cons_append]
    unfold blockLength? at found ⊢
    split at found
    · rw [if_pos (by assumption)]
      exact found
    · rw [if_neg (by assumption)]
      obtain ⟨later, within, rfl⟩ := Option.map_eq_some_iff.mp found
      rw [ih within]
      rfl

/-! ## One step -/

namespace Placement

variable (p : Placement) {setting : Setting} {s next : Scanner} {store after : Store}

theorem enter_placed {opening : Opening} {cursor : Cursor}
    (entered : s.enter setting opening cursor = .ok (.more next)) :
    (p.scanner s).enter (p.setting setting) (p.opening opening) (p.cursor cursor) =
      .ok (.more (p.scanner next)) := by
  unfold Scanner.enter at entered ⊢
  split at entered
  · cases entered
  · rename_i shallow
    cases entered
    have within : ¬ (p.setting setting).maxDepth < (p.scanner s).levels.length + 1 := by
      simp only [Placement.setting, scanner, List.length_append, List.length_map]
      omega
    rw [if_neg within]
    rfl

theorem name_placed (stepped : s.name setting store = (.ok (.more next), after)) :
    (p.scanner s).name (p.setting setting) store = (.ok (.more (p.scanner next)), after) := by
  unfold Scanner.name at stepped ⊢
  rw [Action.ask_apply] at stepped ⊢
  injection stepped with stepped same
  refine Prod.ext ?_ same
  cases read : readName store setting.home s.cursor with
  | error fault =>
    simp only [read] at stepped
    cases stepped
  | ok found =>
    obtain ⟨label, cursor⟩ := found
    have name_ends (d : Char) (here : p.behind.head? = some d) :
        isNamePart d = false ∧ d ≠ '.' := by
      have apart : terminators.all (fun e => !isNamePart e && e != '.') = true := by decide
      simpa using p.behind_of apart here
    have further : readName store setting.home (p.cursor s.cursor) = .ok (label, p.cursor cursor) :=
      followName_append p.offset name_ends read
    have bracket := p.head?_cursor (d := '(') (by decide) cursor
    simp only [read] at stepped
    simp only [setting_home, scanner_cursor, further, bracket]
    by_cases here : cursor.ahead.head? = some '('
    · simp only [if_pos here] at stepped ⊢
      cases resolved : label.resolve store with
      | error fault =>
        simp only [resolved] at stepped
        cases stepped
      | ok value =>
        cases value with
        | routine routine =>
          simp only [resolved] at stepped ⊢
          rw [p.cursor_advance_one here]
          exact p.enter_placed stepped
        | _ =>
          simp only [resolved] at stepped
          cases stepped
    · simp only [if_neg here] at stepped ⊢
      cases stepped
      rfl

theorem factorial_placed {c : Char} (here : s.cursor.ahead.head? = some c)
    (stepped : s.factorial store = (.ok (.more next), after)) :
    (p.scanner s).factorial store = (.ok (.more (p.scanner next)), after) := by
  unfold Scanner.factorial at stepped ⊢
  rw [Action.ask_apply] at stepped ⊢
  injection stepped with stepped same
  refine Prod.ext ?_ same
  simp only [scanner_row]
  split at stepped
  · cases stepped
  · cases stepped
  split at stepped
  · cases stepped
  split at stepped
  · cases stepped
  split at stepped
  · cases stepped
  · cases stepped
    rw [scanner_cursor, p.cursor_advance_one here]
    rfl

/-- Behind a gate the same block is found, and none that lies behind the text. -/
theorem afterGate_placed {result : Value}
    (stepped : s.afterGate setting result = .ok (.more next)) :
    (p.scanner s).afterGate (p.setting setting) result = .ok (.more (p.scanner next)) := by
  have blanks : (p.cursor s.cursor).ahead.takeWhile isBlank = s.cursor.ahead.takeWhile isBlank :=
    p.takeWhile_behind (by decide) s.cursor.ahead
  have passed := p.cursor_advance (c := s.cursor) (List.takeWhile_prefix isBlank).length_le
  -- Where only blanks are left of the text, what stands behind is no brace that opens a block.
  have found := p.head?_cursor (d := '\x7b') (by decide)
    (s.cursor.advance (s.cursor.ahead.takeWhile isBlank).length)
  unfold Scanner.afterGate at stepped ⊢
  simp only [scanner_cursor, blanks, passed, found] at stepped ⊢
  split at stepped
  · rename_i here
    rw [if_pos here]
    split at stepped
    · cases stepped
    · rw [p.cursor_advance_one here]
      exact p.enter_placed stepped
    · split at stepped
      · cases stepped
      · rename_i length counted
        cases stepped
        have further := blockLength?_append_of_some counted p.behind
        rw [← cursor_ahead] at further
        simp only [further, p.cursor_advance (blockLength?_le counted)]
        rfl
  · rename_i elsewhere
    rw [if_neg elsewhere]
    cases stepped
    rfl

theorem resume_placed {opening : Opening} {values : List Value}
    (stepped : s.resume setting opening values store = (.ok (.more next), after)) :
    (p.scanner s).resume (p.setting setting) (p.opening opening) values store =
      (.ok (.more (p.scanner next)), after) := by
  cases opening with
  | group pos =>
    simp only [Scanner.resume, Placement.opening] at stepped ⊢
    split at stepped
    · cases stepped
      rfl
    · cases stepped
  | array =>
    cases stepped
    rfl
  | block =>
    cases stepped
    rfl
  | call routine =>
    obtain ⟨result, between, called, stepped⟩ := Action.bind_ok stepped
    simp only [Scanner.resume, Placement.opening, setting_home]
    rw [Action.bind_of_ok called]
    split at stepped
    · rename_i gate
      injection stepped with stepped same
      simp only [if_pos gate, Action.ofExcept_apply, p.afterGate_placed stepped, same]
    · rename_i plain
      cases stepped
      simp only [if_neg plain]
      rfl

theorem close_placed {c : Char} (here : s.cursor.ahead.head? = some c)
    (stepped : s.close setting c store = (.ok (.more next), after)) :
    (p.scanner s).close (p.setting setting) c store = (.ok (.more (p.scanner next)), after) := by
  cases levels : s.levels with
  | nil =>
    simp only [Scanner.close, levels] at stepped
    cases stepped
  | cons level outer =>
    have placed : (p.scanner s).levels = p.level level :: (outer.map p.level ++ p.around) := by
      simp [scanner, levels]
    simp only [Scanner.close, levels] at stepped
    simp only [Scanner.close, placed]
    split at stepped
    · rename_i closes
      have same : c = (p.level level).opening.closer :=
        closes.trans (p.closer_opening level.opening).symm
      simp only [if_pos same]
      obtain ⟨values, between, evaluated, resumed⟩ := Action.bind_ok stepped
      rw [scanner_cursor, p.cursor_advance_one here]
      exact (Action.bind_of_ok evaluated).trans (p.resume_placed resumed)
    · cases stepped

theorem symbol_placed {c : Char} {rest : List Char} (ahead : s.cursor.ahead = c :: rest)
    (stepped : s.symbol setting c rest store = (.ok (.more next), after)) :
    (p.scanner s).symbol (p.setting setting) c (rest ++ p.behind) store =
      (.ok (.more (p.scanner next)), after) := by
  have here : s.cursor.ahead.head? = some c := by rw [ahead]; rfl
  have entered (opening : Opening)
      (h : Action.ofExcept (s.enter setting opening (s.cursor.advance 1)) store =
        (.ok (.more next), after)) :
      Action.ofExcept ((p.scanner s).enter (p.setting setting) (p.opening opening)
        ((p.scanner s).cursor.advance 1)) store = (.ok (.more (p.scanner next)), after) := by
    injection h with h same
    rw [scanner_cursor, p.cursor_advance_one here, Action.ofExcept_apply, p.enter_placed h, same]
  -- No operator at the end of the text becomes another one through what stands behind.
  have equals : p.behind.head? ≠ some '=' := by
    have other : terminators.all (· != '=') = true := by decide
    exact fun same => absurd rfl (bne_iff_ne.mp (p.behind_of other same))
  unfold Scanner.symbol
  rw [operatorAt?_append equals]
  cases found : operatorAt? c rest with
  | some pair =>
    obtain ⟨op, width⟩ := pair
    simp only [Scanner.symbol, found] at stepped ⊢
    cases stepped
    rw [scanner_cursor, p.cursor_advance (operatorAt?_width_le ahead found)]
    rfl
  | none =>
    simp only [Scanner.symbol, found] at stepped ⊢
    split at stepped
    · rename_i quoted
      rw [if_pos quoted]
      obtain ⟨⟨text, cursor⟩, between, read, stepped⟩ := Action.bind_ok stepped
      cases stepped
      injection read with read same
      have further := p.readString_placed here read
      have placed : Action.ofExcept (readString (p.scanner s).cursor c) store =
          (.ok (text, p.cursor cursor), after) := by
        rw [scanner_cursor, Action.ofExcept_apply, further, same]
      exact Action.bind_of_ok placed
    rw [if_neg (by assumption)]
    split at stepped
    · rw [if_pos (by assumption)]
      exact entered _ stepped
    rw [if_neg (by assumption)]
    split at stepped
    · rw [if_pos (by assumption)]
      exact entered _ stepped
    rw [if_neg (by assumption)]
    split at stepped
    · cases stepped
    rw [if_neg (by assumption)]
    split at stepped
    · rw [if_pos (by assumption)]
      exact p.close_placed here stepped
    rw [if_neg (by assumption)]
    split at stepped
    · rw [if_pos (by assumption)]
      exact p.factorial_placed here stepped
    · cases stepped

/-- What a step does with the text alone, it does with the text inside another. -/
theorem step_placed (stepped : s.step setting store = (.ok (.more next), after)) :
    (p.scanner s).step (p.setting setting) store = (.ok (.more (p.scanner next)), after) := by
  cases ahead : s.cursor.ahead with
  | nil =>
    cases levels : s.levels <;> simp only [Scanner.step, ahead, levels] at stepped <;> cases stepped
  | cons c rest =>
    have here : s.cursor.ahead.head? = some c := by rw [ahead]; rfl
    have placed : (p.scanner s).cursor.ahead = c :: (rest ++ p.behind) := by
      rw [scanner_cursor, cursor_ahead, ahead, List.cons_append]
    simp only [Scanner.step, ahead] at stepped
    simp only [Scanner.step, placed]
    split at stepped
    · rw [if_pos (by assumption), scanner_cursor, p.cursor_advance_one here]
      cases stepped
      rfl
    rw [if_neg (by assumption)]
    split at stepped
    · rw [if_pos (by assumption)]
      obtain ⟨⟨n, cursor⟩, between, read, stepped⟩ := Action.bind_ok stepped
      cases stepped
      injection read with read same
      have further : Action.ofExcept (readNumber (p.scanner s).cursor) store =
          (.ok (n, p.cursor cursor), after) := by
        rw [scanner_cursor, Action.ofExcept_apply, p.readNumber_placed read, same]
      exact Action.bind_of_ok further
    rw [if_neg (by assumption)]
    split at stepped
    · rw [if_pos (by assumption)]
      exact p.name_placed stepped
    · rw [if_neg (by assumption)]
      exact p.symbol_placed ahead stepped

end Placement

/-! ## To the end of the text -/

namespace Scanner

variable {setting : Setting} {s : Scanner} {store after : Store} {st : Statement}

theorem close_ne_done {c : Char} : s.close setting c store ≠ (.ok (.done st), after) := by
  intro stepped
  cases levels : s.levels with
  | nil =>
    simp only [close, levels] at stepped
    cases stepped
  | cons level outer =>
    simp only [close, levels] at stepped
    split at stepped
    · obtain ⟨values, between, _, resumed⟩ := Action.bind_ok stepped
      cases (ensures_resume _ values between).result (congrArg Prod.fst resumed)
    · cases stepped

/-- No token ends a line. -/
theorem symbol_ne_done {c : Char} {rest : List Char} :
    s.symbol setting c rest store ≠ (.ok (.done st), after) := by
  intro stepped
  have entered {opening : Opening} {cursor : Cursor}
      (h : Action.ofExcept (s.enter setting opening cursor) store = (.ok (.done st), after)) :
      False := by
    injection h with h _
    unfold enter at h
    split at h <;> cases h
  cases found : operatorAt? c rest with
  | some pair =>
    simp only [symbol, found] at stepped
    cases stepped
  | none =>
    simp only [symbol, found] at stepped
    split at stepped
    · obtain ⟨_, _, _, stepped⟩ := Action.bind_ok stepped
      cases stepped
    split at stepped
    · exact entered stepped
    split at stepped
    · exact entered stepped
    split at stepped
    · cases stepped
    split at stepped
    · exact close_ne_done stepped
    split at stepped
    · cases (@ensures_factorial s setting store).result (congrArg Prod.fst stepped)
    · cases stepped

/-- A line has ended where nothing is ahead and no level is open. -/
theorem step_done (stepped : s.step setting store = (.ok (.done st), after)) :
    s.cursor.ahead = [] ∧ s.levels = [] ∧ s.statement = st ∧ store = after := by
  cases ahead : s.cursor.ahead with
  | nil =>
    cases levels : s.levels with
    | nil =>
      simp only [step, ahead, levels] at stepped
      cases stepped
      exact ⟨rfl, rfl, rfl, rfl⟩
    | cons level outer =>
      simp only [step, ahead, levels] at stepped
      cases stepped
  | cons c rest =>
    simp only [step, ahead] at stepped
    split at stepped
    · cases stepped
    split at stepped
    · obtain ⟨_, _, _, stepped⟩ := Action.bind_ok stepped
      cases stepped
    split at stepped
    · cases (ensures_name store).result (congrArg Prod.fst stepped)
    · exact absurd stepped symbol_ne_done

end Scanner

/-- A text that is read to a statement alone brings the scanner, inside a longer text, up to what
lies behind it, with a row that makes the same statement. -/
theorem Placement.reaches_behind (p : Placement) {setting : Setting} {s : Scanner}
    {store after : Store} {st : Statement} (mirrored : s.Mirrored)
    (ran : s.run setting store = (.ok st, after)) :
    ∃ last : Scanner, last.statement = st ∧ last.levels = p.around ∧
      last.cursor.ahead = p.behind ∧
      Scanner.Reaches (p.setting setting) (p.scanner s, store) (last, after) := by
  -- Each step that leaves more to read has read a character.
  induction length : s.cursor.ahead.length using Nat.strongRecOn generalizing s store with
  | ind _ ih =>
    rw [Scanner.run_eq] at ran
    obtain ⟨progress, between, stepped, finished⟩ := Action.bind_ok ran
    cases progress with
    | more next =>
      have shorter := Scanner.step_shorter stepped
      obtain ⟨last, same, levels, ahead, later⟩ :=
        ih _ (by omega) (mirrored.step stepped) finished rfl
      exact ⟨last, same, levels, ahead, .step (p.step_placed stepped) later⟩
    | done statement =>
      cases finished
      obtain ⟨ahead, levels, same, rfl⟩ := Scanner.step_done stepped
      refine ⟨p.scanner s, same, ?_, ?_, .refl _⟩
      · rw [scanner, levels, List.map_nil, List.nil_append]
      · rw [scanner_cursor, cursor_ahead, ahead, List.nil_append]

end Scriptlet
