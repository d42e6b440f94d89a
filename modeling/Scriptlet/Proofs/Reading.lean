import Scriptlet.Proofs.Mirroring
set_option autoImplicit false

/-!
# The text that a step reads

A step of the scanner that goes on has read a piece of the text, and the brackets and quotes in that
piece say what it did to the open levels.  A piece without any is a token and changes no level; a
string is one piece from quote to quote; an opening bracket stands at the end of the piece that
opens its level, and a closing one at the start of the piece that closes it.  Behind the bracket
that closes the call of a gate, the same step also reads blanks and the brace of a block that is
run, or the whole of a block that is passed over.
-/

namespace Scriptlet

/-! ## Quotes and brackets -/

/-- The characters that open or close something. -/
def delimiters : List Char := ['"', '\'', '(', ')', '[', ']', '\x7b', '\x7d']

/-- A text without quotes and brackets. -/
def Plain (text : List Char) : Prop := ∀ c ∈ text, c ∉ delimiters

theorem plain_nil : Plain [] := List.forall_mem_nil _

theorem Plain.cons {c : Char} {text : List Char} (here : c ∉ delimiters) (later : Plain text) :
    Plain (c :: text) :=
  List.forall_mem_cons.mpr ⟨here, later⟩

/-- A class of characters that has no delimiter. -/
theorem not_delimiter {p : Char → Bool} (apart : delimiters.all (!p ·) = true) {c : Char}
    (holds : p c = true) : c ∉ delimiters := by
  intro member
  have other := List.all_eq_true.mp apart c member
  rw [holds] at other
  cases other

theorem plain_takeWhile {p : Char → Bool} (apart : delimiters.all (!p ·) = true)
    (text : List Char) : Plain (text.takeWhile p) := by
  intro c member
  exact not_delimiter apart (List.all_eq_true.mp List.all_takeWhile c member)

theorem isBlank_delimiters : delimiters.all (!isBlank ·) = true := by decide

theorem isNumberChar_delimiters : delimiters.all (!isNumberChar ·) = true := by decide

theorem isNamePart_delimiters : delimiters.all (!isNamePart ·) = true := by decide

/-! ## From place to place -/

/-- The text lies between the first place and the second. -/
structure Cursor.Reads (start : Cursor) (text : List Char) (stop : Cursor) : Prop where
  ahead : start.ahead = text ++ stop.ahead
  pos : stop.pos = start.pos + text.length

namespace Cursor

variable {a b c : Cursor} {text more : List Char}

theorem Reads.trans (first : a.Reads text b) (second : b.Reads more c) :
    a.Reads (text ++ more) c := by
  refine ⟨?_, ?_⟩
  · rw [first.ahead, second.ahead, List.append_assoc]
  · rw [second.pos, first.pos, List.length_append, Nat.add_assoc]

theorem Reads.advance (reads : a.Reads text b) : a.advance text.length = b := by
  rw [Cursor.advance, reads.ahead, List.drop_left, ← reads.pos]

theorem reads_nil (a : Cursor) : a.Reads [] a := ⟨rfl, rfl⟩

theorem reads_advance {rest : List Char} (ahead : a.ahead = text ++ rest) :
    a.Reads text (a.advance text.length) := by
  refine ⟨?_, rfl⟩
  rw [Cursor.advance, ahead, List.drop_left]

theorem reads_one {d : Char} (here : a.ahead.head? = some d) : a.Reads [d] (a.advance 1) := by
  obtain ⟨rest, found⟩ := List.head?_eq_some_iff.mp here
  exact reads_advance found

theorem reads_takeWhile (a : Cursor) (p : Char → Bool) :
    a.Reads (a.ahead.takeWhile p) (a.advance (a.ahead.takeWhile p).length) :=
  reads_advance List.takeWhile_append_dropWhile.symm

end Cursor

theorem reads_readNumber {place after : Cursor} {n : Float}
    (read : readNumber place = .ok (n, after)) : ∃ text, Plain text ∧ place.Reads text after := by
  unfold readNumber at read
  simp only at read
  split at read
  · cases read
  split at read
  · cases read
  · cases read
    exact ⟨_, plain_takeWhile isNumberChar_delimiters _, place.reads_takeWhile _⟩

/-- A string is read from its quote to the next one of the kind. -/
theorem reads_readString {place after : Cursor} {quote : Char} {s : String}
    (here : place.ahead.head? = some quote) (read : readString place quote = .ok (s, after)) :
    quote ∉ s.toList ∧ place.Reads (quote :: s.toList ++ [quote]) after := by
  obtain ⟨rest, found⟩ := List.head?_eq_some_iff.mp here
  unfold readString at read
  simp only [found, List.drop_one, List.tail_cons] at read
  split at read
  · cases read
  · rename_i close behind ends
    cases read
    have closes : close = quote := by
      have stops := List.head?_dropWhile_not (· != quote) rest
      simpa [ends] using stops
    subst closes
    rw [String.toList_ofList]
    refine ⟨?_, ?_, ?_⟩
    · intro member
      simpa using List.all_eq_true.mp List.all_takeWhile close member
    · rw [found, List.append_assoc, List.cons_append, List.singleton_append, ← ends,
        List.takeWhile_append_dropWhile]
    · simp only [List.length_append, List.length_cons, List.length_nil]
      omega

theorem reads_followName {store : Store} {chars : List Char} {label : Label} {after : Cursor} :
    ∀ {scope : ScopeId} {name : String} {pos : Nat},
      followName store scope name pos chars = .ok (label, after) →
      ∃ text, Plain text ∧ Cursor.Reads ⟨pos, chars⟩ text after := by
  induction chars with
  | nil =>
    intro scope name pos read
    cases read
    exact ⟨[], plain_nil, Cursor.reads_nil _⟩
  | cons c rest ih =>
    -- A character of the name, or a point, goes in front of what is read from the rest.
    have further {scope : ScopeId} {name : String} {pos : Nat} (plain : c ∉ delimiters)
        (read : followName store scope name (pos + 1) rest = .ok (label, after)) :
        ∃ text, Plain text ∧ Cursor.Reads ⟨pos, c :: rest⟩ text after := by
      obtain ⟨text, later, reads⟩ := ih read
      have one : Cursor.Reads ⟨pos, c :: rest⟩ [c] ⟨pos + 1, rest⟩ := Cursor.reads_one rfl
      exact ⟨c :: text, later.cons plain, one.trans reads⟩
    intro scope name pos read
    unfold followName at read
    split at read
    · rename_i part
      exact further (not_delimiter isNamePart_delimiters part) read
    split at read
    · rename_i point
      split at read
      · cases read
      · exact further (by rw [point]; decide) read
    · cases read
      exact ⟨[], plain_nil, Cursor.reads_nil _⟩

/-- An operator is the character it starts with, or that and an equals sign. -/
theorem reads_operatorAt? {place : Cursor} {c : Char} {rest : List Char} {op : Operator}
    {width : Nat} (ahead : place.ahead = c :: rest)
    (found : operatorAt? c rest = some (op, width)) :
    ∃ text, Plain text ∧ place.Reads text (place.advance width) := by
  have one (plain : c ∉ delimiters) : ∃ text, Plain text ∧ place.Reads text (place.advance 1) :=
    ⟨[c], plain_nil.cons plain, Cursor.reads_one (by rw [ahead]; rfl)⟩
  have two (plain : c ∉ delimiters) (equals : (rest.head? == some '=') = true) :
      ∃ text, Plain text ∧ place.Reads text (place.advance 2) := by
    obtain ⟨behind, rfl⟩ := List.head?_eq_some_iff.mp (beq_iff_eq.mp equals)
    exact ⟨[c, '='], (plain_nil.cons (by decide)).cons plain, Cursor.reads_advance ahead⟩
  have either {x y : Operator} (plain : c ∉ delimiters)
      (found : some (if (rest.head? == some '=') = true then (x, 2) else (y, 1)) =
        some (op, width)) :
      ∃ text, Plain text ∧ place.Reads text (place.advance width) := by
    split at found
    · cases found
      exact two plain (by assumption)
    · cases found
      exact one plain
  unfold operatorAt? at found
  simp only at found
  split at found
  · cases found; exact one (by decide)
  · cases found; exact one (by decide)
  · exact either (by decide) found
  · exact either (by decide) found
  · exact either (by decide) found
  · exact either (by decide) found
  · exact either (by decide) found
  · split at found
    · cases found
      exact two (by decide) (by assumption)
    · cases found
  · cases found; exact one (by decide)
  · cases found; exact one (by decide)
  · cases found

theorem blockLength?_le {chars : List Char} {p : Passing} {length : Nat}
    (found : blockLength? p chars = some length) : length ≤ chars.length := by
  induction chars generalizing p length with
  | nil => cases found
  | cons c rest ih =>
    unfold blockLength? at found
    split at found
    · cases found
      exact Nat.le_add_left 1 rest.length
    · obtain ⟨later, within, rfl⟩ := Option.map_eq_some_iff.mp found
      exact Nat.succ_le_succ (ih within)

/-- The block that is passed over lies ahead. -/
theorem reads_blockLength? {place : Cursor} {p : Passing} {length : Nat}
    (found : blockLength? p place.ahead = some length) :
    ∃ block, block.length = length ∧ place.Reads block (place.advance length) := by
  have bound := blockLength?_le found
  have taken : (place.ahead.take length).length = length := List.length_take_of_le bound
  have reads := Cursor.reads_advance (List.take_append_drop length place.ahead).symm
  rw [taken] at reads
  exact ⟨_, taken, reads⟩

/-! ## One step -/

/-- The character that opens a level. -/
def Opening.opener : Opening → Char
  | group _ => '('
  | array => '['
  | call _ => '('
  | block => '\x7b'

namespace Scanner

/-- What a step that goes on to `next` has done to the open levels, by the text it has read. -/
inductive Reads (s next : Scanner) : List Char → Prop where
  /-- a blank or a token -/
  | plain {text : List Char} (plain : Plain text) (levels : next.levels = s.levels) :
      Reads s next text
  /-- a string -/
  | string {quote : Char} {inner : List Char} (quoted : quote = '"' ∨ quote = '\'')
      (inside : quote ∉ inner) (levels : next.levels = s.levels) :
      Reads s next (quote :: inner ++ [quote])
  /-- an opening bracket, with the name in front of it when it is that of a call -/
  | enter {front : List Char} (opening : Opening) (plain : Plain front)
      (bracket : opening ≠ .block) (levels : next.levels = ⟨opening, s.row⟩ :: s.levels) :
      Reads s next (front ++ [opening.opener])
  /-- a closing bracket -/
  | close {level : Level} (levels : s.levels = level :: next.levels) :
      Reads s next [level.opening.closer]
  /-- the bracket that closes the call of a gate, and the brace of the block that is run -/
  | run {routine : Routine} {suspended : Row} {outer : List Level} {blanks : List Char}
      (levels : s.levels = ⟨.call routine, suspended⟩ :: outer) (plain : Plain blanks)
      (opened : next.levels = ⟨.block, suspended⟩ :: outer) :
      Reads s next (')' :: (blanks ++ ['\x7b']))
  /-- the bracket that closes the call of a gate, and the block that is passed over -/
  | skip {routine : Routine} {suspended : Row} {blanks block : List Char}
      (levels : s.levels = ⟨.call routine, suspended⟩ :: next.levels) (plain : Plain blanks)
      (brace : block.head? = some '\x7b')
      (whole : blockLength? .start (block ++ next.cursor.ahead) = some block.length) :
      Reads s next (')' :: (blanks ++ block))

variable {setting : Setting} {s next : Scanner} {store after : Store}

/-- The text between two scanners, and what it did to the levels. -/
def ReadsTo (s next : Scanner) : Prop :=
  ∃ text, s.cursor.Reads text next.cursor ∧ s.Reads next text

theorem levels_of_enter {opening : Opening} {cursor : Cursor}
    (entered : s.enter setting opening cursor = .ok (.more next)) :
    next.levels = ⟨opening, s.row⟩ :: s.levels := by
  unfold enter at entered
  split at entered <;> cases entered
  rfl

theorem readsTo_enter (opening : Opening) {front : List Char} {bracket : Cursor}
    (before : s.cursor.Reads front bracket) (plain : Plain front)
    (here : bracket.ahead.head? = some opening.opener) (brackets : opening ≠ .block)
    (entered : s.enter setting opening (bracket.advance 1) = .ok (.more next)) :
    s.ReadsTo next := by
  refine ⟨front ++ [opening.opener], ?_, .enter opening plain brackets (levels_of_enter entered)⟩
  rw [enter_cursor entered]
  exact before.trans (Cursor.reads_one here)

theorem readsTo_add {token : Token} {text : List Char} {cursor : Cursor} (plain : Plain text)
    (reads : s.cursor.Reads text cursor) : s.ReadsTo (s.add token cursor) :=
  ⟨text, reads, .plain plain rfl⟩

/-- The name of a routine with a bracket behind it opens the arguments of a call. -/
theorem name_of_call {label : Label} {behind : Cursor} {routine : Routine}
    (read : readName store setting.home s.cursor = .ok (label, behind))
    (bracket : behind.ahead.head? = some '(')
    (resolved : label.resolve store = .ok (.routine routine)) :
    s.name setting store = (s.enter setting (.call routine) (behind.advance 1), store) := by
  refine congrArg (·, store) ?_
  simp only [read, bracket, resolved, if_true]

theorem readsTo_name (stepped : s.name setting store = (.ok (.more next), after)) :
    s.ReadsTo next := by
  unfold name at stepped
  rw [Action.ask_apply] at stepped
  injection stepped with stepped _
  split at stepped
  · cases stepped
  · rename_i label cursor read
    obtain ⟨text, plain, reads⟩ := reads_followName read
    split at stepped
    · rename_i here
      split at stepped
      · cases stepped
      · rename_i routine _
        exact readsTo_enter (.call routine) reads plain here Opening.noConfusion stepped
      · cases stepped
    · cases stepped
      exact readsTo_add plain reads

theorem readsTo_factorial (here : s.cursor.ahead.head? = some '!')
    (stepped : s.factorial store = (.ok (.more next), after)) : s.ReadsTo next := by
  unfold factorial at stepped
  rw [Action.ask_apply] at stepped
  injection stepped with stepped _
  repeat' split at stepped
  all_goals cases stepped
  exact ⟨['!'], Cursor.reads_one here, .plain (plain_nil.cons (by decide)) rfl⟩

/-- Behind the bracket that closes the call of a gate. -/
theorem readsTo_afterGate {routine : Routine} {suspended : Row} {outer : List Level}
    {cursor : Cursor} {result : Value} (levels : s.levels = ⟨.call routine, suspended⟩ :: outer)
    (closed : s.cursor.Reads [')'] cursor)
    (stepped : afterGate setting ⟨cursor, suspended, outer⟩ result = .ok (.more next)) :
    s.ReadsTo next := by
  have blanks := closed.trans (cursor.reads_takeWhile isBlank)
  have plain := plain_takeWhile isBlank_delimiters cursor.ahead
  unfold afterGate at stepped
  simp only at stepped
  split at stepped
  · rename_i here
    split at stepped
    · cases stepped
    · refine ⟨_, ?_, .run levels plain (levels_of_enter stepped)⟩
      rw [enter_cursor stepped]
      exact blanks.trans (Cursor.reads_one here)
    · split at stepped
      · cases stepped
      · rename_i length found
        cases stepped
        -- The block is not empty, so that its first character is the brace.
        obtain ⟨block, rfl, reads⟩ := reads_blockLength? found
        refine ⟨_, blanks.trans reads, .skip levels plain ?_ (reads.ahead ▸ found)⟩
        have some_block := blockLength?_pos found
        rw [reads.ahead] at here
        cases block with
        | nil => cases some_block
        | cons c rest => exact here
  · cases stepped
    have closer : Opening.closer (.call routine) = ')' := rfl
    exact ⟨_, closer ▸ closed, .close levels⟩

theorem readsTo_resume {level : Level} {outer : List Level} {cursor : Cursor}
    {values : List Value} (levels : s.levels = level :: outer)
    (closed : s.cursor.Reads [level.opening.closer] cursor)
    (stepped : resume setting ⟨cursor, level.suspended, outer⟩ level.opening values store =
      (.ok (.more next), after)) : s.ReadsTo next := by
  have added {token : Token} : s.ReadsTo (add ⟨cursor, level.suspended, outer⟩ token cursor) :=
    ⟨_, closed, .close levels⟩
  obtain ⟨opening, suspended⟩ := level
  cases opening with
  | group pos =>
    simp only [resume] at stepped
    split at stepped <;> cases stepped
    exact added
  | array =>
    cases stepped
    exact added
  | block =>
    cases stepped
    exact added
  | call routine =>
    obtain ⟨result, between, _, stepped⟩ := Action.bind_ok stepped
    split at stepped
    · injection stepped with stepped _
      exact readsTo_afterGate levels closed stepped
    · cases stepped
      exact added

theorem readsTo_close {c : Char} (here : s.cursor.ahead.head? = some c)
    (stepped : s.close setting c store = (.ok (.more next), after)) : s.ReadsTo next := by
  cases levels : s.levels with
  | nil =>
    simp only [close, levels] at stepped
    cases stepped
  | cons level outer =>
    simp only [close, levels] at stepped
    split at stepped
    · rename_i closes
      obtain ⟨values, between, _, stepped⟩ := Action.bind_ok stepped
      exact readsTo_resume levels (closes ▸ Cursor.reads_one here) stepped
    · cases stepped

theorem readsTo_symbol {c : Char} {rest : List Char} (ahead : s.cursor.ahead = c :: rest)
    (stepped : s.symbol setting c rest store = (.ok (.more next), after)) : s.ReadsTo next := by
  have here : s.cursor.ahead.head? = some c := by rw [ahead]; rfl
  have entered (opening : Opening) (bracket : c = opening.opener) (brackets : opening ≠ .block)
      (h : Action.ofExcept (s.enter setting opening (s.cursor.advance 1)) store =
        (.ok (.more next), after)) : s.ReadsTo next := by
    injection h with h _
    exact readsTo_enter opening s.cursor.reads_nil plain_nil (bracket ▸ here) brackets h
  cases found : operatorAt? c rest with
  | some pair =>
    simp only [symbol, found] at stepped
    cases stepped
    obtain ⟨text, plain, reads⟩ := reads_operatorAt? ahead found
    exact readsTo_add plain reads
  | none =>
    simp only [symbol, found] at stepped
    split at stepped
    · rename_i quoted
      obtain ⟨⟨text, cursor⟩, between, read, stepped⟩ := Action.bind_ok stepped
      cases stepped
      injection read with read _
      obtain ⟨inside, reads⟩ := reads_readString here read
      exact ⟨_, reads, .string quoted inside rfl⟩
    split at stepped
    · rename_i bracket
      exact entered (.group s.cursor.pos) bracket Opening.noConfusion stepped
    split at stepped
    · rename_i bracket
      exact entered .array bracket Opening.noConfusion stepped
    split at stepped
    · cases stepped
    split at stepped
    · exact readsTo_close here stepped
    split at stepped
    · rename_i mark
      exact readsTo_factorial (mark ▸ here) stepped
    · cases stepped

/-- Every step that goes on has read a text of one of these shapes. -/
theorem readsTo_step (stepped : s.step setting store = (.ok (.more next), after)) :
    s.ReadsTo next := by
  cases ahead : s.cursor.ahead with
  | nil =>
    cases levels : s.levels <;> simp only [step, ahead, levels] at stepped <;> cases stepped
  | cons c rest =>
    simp only [step, ahead] at stepped
    have here : s.cursor.ahead.head? = some c := by rw [ahead]; rfl
    split at stepped
    · rename_i blank
      cases stepped
      have plain := plain_nil.cons (not_delimiter isBlank_delimiters blank)
      exact ⟨[c], Cursor.reads_one here, .plain plain rfl⟩
    split at stepped
    · obtain ⟨⟨n, cursor⟩, between, read, stepped⟩ := Action.bind_ok stepped
      cases stepped
      injection read with read _
      obtain ⟨text, plain, reads⟩ := reads_readNumber read
      exact readsTo_add plain reads
    split at stepped
    · exact readsTo_name stepped
    · exact readsTo_symbol ahead stepped

/-- The bracket that closes the present level evaluates it, whatever lies behind. -/
theorem step_closer {level : Level} {outer : List Level}
    (levels : s.levels = level :: outer)
    (here : s.cursor.ahead.head? = some level.opening.closer) :
    s.step setting = s.statement.evaluate >>=
      resume setting ⟨s.cursor.advance 1, level.suspended, outer⟩ level.opening := by
  obtain ⟨rest, ahead⟩ := List.head?_eq_some_iff.mp here
  have closes : s.step setting = s.close setting level.opening.closer := by
    unfold step
    simp only [ahead]
    cases level.opening <;> rfl
  rw [closes, close]
  simp only [levels, if_true]

end Scanner

end Scriptlet
