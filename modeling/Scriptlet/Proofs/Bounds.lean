import Scriptlet.Proofs.Blocks
import Scriptlet.Proofs.CallEffects
import Scriptlet.Proofs.Printing
import Scriptlet.Proofs.Ranges
set_option autoImplicit false

/-!
# The scanner goes forward and comes to an end

Every step that goes on reads at least one character and none behind the end of the text, whether it
reads a token, opens or closes a bracket, makes a call, or passes over a block.  So the scanner takes
no more steps than there are characters.  A level of brackets is left only over the bracket that it
was opened for, and the text only at its end.
-/

namespace Scriptlet

/-! ## Places in a text -/

namespace Cursor

/-- A place in the text: not past its end, and with the rest of the text ahead. -/
structure LiesIn (c : Cursor) (text : List Char) : Prop where
  bound : c.pos ≤ text.length
  ahead : c.ahead = text.drop c.pos

variable {a b : Cursor} {text piece : List Char}

theorem liesIn_ofText {start : Nat} (within : start ≤ text.length) :
    (ofText text start).LiesIn text := by
  refine ⟨Nat.min_le_right .., ?_⟩
  rw [ofText, Nat.min_eq_left within]

/-- What is read leads to another place in the text. -/
theorem LiesIn.reads (lies : a.LiesIn text) (reads : a.Reads piece b) : b.LiesIn text := by
  have whole : text.drop a.pos = piece ++ b.ahead := lies.ahead.symm.trans reads.ahead
  have lengths := congrArg List.length whole
  rw [List.length_drop, List.length_append] at lengths
  have bound := lies.bound
  refine ⟨by rw [reads.pos]; omega, ?_⟩
  rw [reads.pos, ← List.drop_drop, whole, List.drop_left]

theorem LiesIn.getElem? (lies : a.LiesIn text) : text[a.pos]? = a.ahead.head? := by
  rw [lies.ahead, List.head?_drop]

theorem LiesIn.length_ahead (lies : a.LiesIn text) :
    a.pos + a.ahead.length = text.length := by
  rw [lies.ahead, List.length_drop, Nat.add_sub_cancel' lies.bound]

/-- What is read stands in the text where it was read. -/
theorem LiesIn.getElem?_add (lies : a.LiesIn text) (reads : a.Reads piece b) {k : Nat}
    (inside : k < piece.length) : text[a.pos + k]? = piece[k]? := by
  rw [← List.getElem?_drop, ← lies.ahead, reads.ahead, List.getElem?_append_left inside]

/-! ### What is cut out of a text -/

/-- A string that starts at the place lies in the text: its quotes stand there, and its content is
what is between them. -/
def StringLiesIn (place : Cursor) (text : List Char) : Prop :=
  ∀ quote, place.ahead.head? = some quote →
    text[place.pos]? = some quote ∧
    ∀ content behind, readString place quote = .ok (content, behind) →
      content.toList = (text.drop (place.pos + 1)).take content.length ∧
      text[place.pos + 1 + content.length]? = some quote ∧
      behind.pos = place.pos + content.length + 2 ∧ behind.pos ≤ text.length

theorem LiesIn.stringLiesIn (lies : a.LiesIn text) : a.StringLiesIn text := by
  intro quote here
  refine ⟨lies.getElem?.trans here, fun content behind read => ?_⟩
  obtain ⟨_, reads⟩ := reads_readString here read
  have length : content.toList.length = content.length := String.length_toList
  refine ⟨?_, ?_, ?_, (lies.reads reads).bound⟩
  · rw [← List.drop_drop, ← lies.ahead, reads.ahead, ← length]
    simp
  · have inside : 1 + content.length < (quote :: content.toList ++ [quote]).length := by
      simp [length, Nat.add_comm]
    rw [Nat.add_assoc, lies.getElem?_add reads inside, ← length, Nat.add_comm 1]
    simp
  · rw [reads.pos, List.length_append, List.length_cons, length, List.length_singleton]
    omega

/-- A block that starts at the place lies in the text: its braces stand there. -/
def BlockLiesIn (place : Cursor) (text : List Char) : Prop :=
  place.ahead.head? = some '\x7b' →
    text[place.pos]? = some '\x7b' ∧
    ∀ length, blockLength? .start place.ahead = some length →
      0 < length ∧ text[place.pos + (length - 1)]? = some '\x7d'

/-- A block ends with a brace. -/
theorem getElem?_blockLength? {p : Passing} {chars : List Char} {length : Nat}
    (found : blockLength? p chars = some length) : chars[length - 1]? = some '\x7d' := by
  induction chars generalizing p length with
  | nil => cases found
  | cons c rest ih =>
    by_cases ends : p.Ends c
    · rw [Passing.blockLength?_of_ends ends] at found
      cases found
      exact congrArg some ends.2.1
    · rw [Passing.blockLength?_of_goesOn ends] at found
      obtain ⟨later, behind, rfl⟩ := Option.map_eq_some_iff.mp found
      have some_later := blockLength?_pos behind
      rw [Nat.add_sub_cancel, ← ih behind, List.getElem?_cons, if_neg (Nat.ne_of_gt some_later)]

theorem LiesIn.blockLiesIn (lies : a.LiesIn text) : a.BlockLiesIn text := by
  refine fun here => ⟨lies.getElem?.trans here, fun length found => ⟨blockLength?_pos found, ?_⟩⟩
  rw [← List.getElem?_drop, ← lies.ahead]
  exact getElem?_blockLength? found

/-- The place behind the blanks ahead. -/
def behindBlanks (c : Cursor) : Cursor := c.advance (c.ahead.takeWhile isBlank).length

/-- A block behind a character and blanks. -/
theorem LiesIn.blockLiesIn_behind (lies : a.LiesIn text) :
    (a.advance 1).behindBlanks.BlockLiesIn text := by
  intro here
  cases ahead : a.ahead with
  | nil => simp [behindBlanks, advance, ahead] at here
  | cons c rest =>
    have one : a.Reads [c] (a.advance 1) := reads_one (by rw [ahead]; rfl)
    have blanks := (a.advance 1).reads_takeWhile isBlank
    exact ((lies.reads one).reads blanks).blockLiesIn here

end Cursor

/-! ## One step -/

namespace Scanner

variable {setting : Setting} {s next : Scanner} {store after : Store} {text : List Char}
  {base : List Level}

/-- A step goes forward, and stays in the text. -/
theorem step_advances (lies : s.cursor.LiesIn text)
    (stepped : s.step setting store = (.ok (.more next), after)) :
    next.cursor.LiesIn text ∧ s.cursor.pos < next.cursor.pos := by
  obtain ⟨piece, reads, _⟩ := readsTo_step stepped
  have further := lies.reads reads
  have shorter := step_shorter stepped
  have before := lies.length_ahead
  have behind := further.length_ahead
  exact ⟨further, by omega⟩

/-- The level is to be closed here: its bracket stands ahead or, outside all brackets, nothing. -/
structure AtClosing (s : Scanner) (base : List Level) : Prop where
  levels : s.levels = base
  closer : s.cursor.ahead.head? = base.head?.map (·.opening.closer)

/-- A level is left only over the bracket that closes it. -/
theorem stays_or_atClosing (inside : base <:+ s.levels)
    (stepped : s.step setting store = (.ok (.more next), after)) :
    base <:+ next.levels ∨ s.AtClosing base := by
  obtain ⟨piece, reads, shape⟩ := readsTo_step stepped
  -- The present level closes; if it is not the last one of `base`, all of these stay.
  have closed {level : Level} {outer : List Level} {more : List Char}
      (levels : s.levels = level :: outer)
      (here : s.cursor.ahead = level.opening.closer :: more) :
      base <:+ outer ∨ s.AtClosing base := by
    rw [levels] at inside
    rcases List.suffix_cons_iff.mp inside with same | suffix
    · refine .inr ⟨levels.trans same.symm, ?_⟩
      rw [here, same]
      rfl
    · exact .inl suffix
  have ahead := reads.ahead
  cases shape with
  | plain _ levels => exact .inl (levels ▸ inside)
  | string _ _ levels => exact .inl (levels ▸ inside)
  | enter _ _ _ levels => exact .inl (levels ▸ inside.trans (List.suffix_cons _ _))
  | close levels => exact closed levels ahead
  | run levels _ opened =>
    rcases closed levels ahead with suffix | closing
    · exact .inl (opened ▸ suffix.trans (List.suffix_cons _ _))
    · exact .inr closing
  | skip levels _ _ _ => exact closed levels ahead

theorem levels_of_afterGate {result : Value}
    (stepped : s.afterGate setting result = .ok (.more next)) :
    next.levels = s.levels ∨ next.levels = ⟨.block, s.row⟩ :: s.levels := by
  unfold afterGate at stepped
  simp only at stepped
  split at stepped
  · split at stepped
    · cases stepped
    · exact .inr (levels_of_enter stepped)
    · split at stepped <;> cases stepped
      exact .inl rfl
  · cases stepped
    exact .inl rfl

/-- When a level has closed, those around it are open, and perhaps the block behind a call. -/
theorem levels_of_resume {opening : Opening} {values : List Value}
    (stepped : s.resume setting opening values store = (.ok (.more next), after)) :
    next.levels = s.levels ∨
      ∃ routine, opening = .call routine ∧ next.levels = ⟨.block, s.row⟩ :: s.levels := by
  cases opening with
  | group pos =>
    simp only [resume] at stepped
    split at stepped <;> cases stepped
    exact .inl rfl
  | array =>
    cases stepped
    exact .inl rfl
  | block =>
    cases stepped
    exact .inl rfl
  | call routine =>
    obtain ⟨result, between, _, stepped⟩ := Action.bind_ok stepped
    split at stepped
    · injection stepped with stepped _
      rcases levels_of_afterGate stepped with same | opened
      · exact .inl same
      · exact .inr ⟨routine, rfl, opened⟩
    · cases stepped
      exact .inl rfl

/-- The step over the bracket that closes a level leaves it. -/
theorem AtClosing.leaves (closing : s.AtClosing base)
    (stepped : s.step setting store = (.ok (.more next), after)) : ¬ base <:+ next.levels := by
  obtain ⟨levels, here⟩ := closing
  cases base with
  | nil =>
    -- At the end of the text outside all brackets there is no step that goes on.
    have shorter := step_shorter stepped
    rw [List.head?_eq_none_iff.mp here] at shorter
    cases shorter
  | cons level outer =>
    rw [step_closer levels here] at stepped
    obtain ⟨values, between, _, resumed⟩ := Action.bind_ok stepped
    intro inside
    rcases levels_of_resume resumed with same | ⟨routine, call, opened⟩
    · have longer := (same ▸ inside).length_le
      simp at longer
    · -- A block takes the place of a call, and is another level.
      rw [opened] at inside
      have same := inside.eq_of_length rfl
      injection same with same _
      rw [same] at call
      cases call

/-! ## Step after step -/

/-- The scanner takes `n` steps from one state to another, and closes none of the levels in
`base`. -/
inductive Takes (setting : Setting) (base : List Level) :
    Nat → Scanner × Store → Scanner × Store → Prop where
  | zero (state : Scanner × Store) : Takes setting base 0 state state
  | succ {n : Nat} {s next : Scanner} {store between : Store} {last : Scanner × Store}
      (stepped : s.step setting store = (.ok (.more next), between))
      (inside : base <:+ next.levels) (later : Takes setting base n (next, between) last) :
      Takes setting base (n + 1) (s, store) last

theorem Stays.exists_takes {first last : Scanner × Store} (stays : Stays setting base first last) :
    ∃ n, Takes setting base n first last := by
  induction stays with
  | refl state => exact ⟨0, .zero state⟩
  | step stepped inside _ ih =>
    obtain ⟨n, later⟩ := ih
    exact ⟨n + 1, .succ stepped inside later⟩

namespace Takes

variable {n m : Nat} {first last other : Scanner × Store}

theorem stays (takes : Takes setting base n first last) : Stays setting base first last := by
  induction takes with
  | zero state => exact .refl state
  | succ stepped inside _ ih => exact .step stepped inside ih

theorem reaches (takes : Takes setting base n first last) : Reaches setting first last := by
  induction takes with
  | zero state => exact .refl state
  | succ stepped _ _ ih => exact .step stepped ih

/-- Each step counts for at least one character. -/
theorem advances (takes : Takes setting base n first last) (lies : first.1.cursor.LiesIn text) :
    last.1.cursor.LiesIn text ∧ first.1.cursor.pos + n ≤ last.1.cursor.pos := by
  induction takes with
  | zero state => exact ⟨lies, Nat.le_refl _⟩
  | succ stepped _ _ ih =>
    obtain ⟨further, forward⟩ := step_advances lies stepped
    obtain ⟨within, counted⟩ := ih further
    simp only at counted
    exact ⟨within, by omega⟩

end Takes

theorem run_of_error {fault : Fault} (failed : s.step setting store = (.error fault, after)) :
    s.run setting store = (.error fault, after) := by
  rw [run_eq]
  exact Action.bind_of_error failed

/-- The reading of a level comes to its end here: the level closes, or the next step fails. -/
def Ends (setting : Setting) (base : List Level) (s : Scanner) (store : Store) : Prop :=
  s.AtClosing base ∨ ∃ fault after, s.step setting store = (.error fault, after)

/-- From its end no step stays in the level. -/
theorem Ends.leaves (ends : s.Ends setting base store)
    (stepped : s.step setting store = (.ok (.more next), after)) : ¬ base <:+ next.levels := by
  rcases ends with closing | ⟨fault, left, failed⟩
  · exact closing.leaves stepped
  · rw [failed] at stepped
    cases stepped

/-- No run of the level is longer than the one to its end. -/
theorem Takes.le_of_ends {n m : Nat} {first other : Scanner × Store}
    (takes : Takes setting base n first (s, store)) (ends : s.Ends setting base store)
    (run : Takes setting base m first other) : m ≤ n := by
  generalize reached : (s, store) = last at takes
  induction takes generalizing m with
  | zero state =>
    subst reached
    cases run with
    | zero => exact Nat.le_refl 0
    | succ stepped inside _ => exact absurd inside (ends.leaves stepped)
  | succ stepped _ _ ih =>
    cases run with
    | zero => exact Nat.zero_le _
    | succ again _ more =>
      rw [stepped] at again
      cases again
      exact Nat.succ_le_succ (ih more reached)

/-- The reading of a level comes to its end, by induction on the characters ahead. -/
theorem exists_end (setting : Setting) (store : Store) (inside : base <:+ s.levels) :
    ∃ n last present, Takes setting base n (s, store) (last, present) ∧
      last.Ends setting base present := by
  induction length : s.cursor.ahead.length using Nat.strongRecOn generalizing s store with
  | ind _ ih =>
    cases stepped : s.step setting store with
    | mk result after =>
      cases result with
      | error fault => exact ⟨0, s, store, .zero _, .inr ⟨fault, after, stepped⟩⟩
      | ok progress =>
        cases progress with
        | done st =>
          obtain ⟨ahead, levels, _⟩ := step_done stepped
          rw [levels] at inside
          obtain rfl := List.suffix_nil.mp inside
          exact ⟨0, s, store, .zero _, .inl ⟨levels, by rw [ahead]; rfl⟩⟩
        | more next =>
          rcases stays_or_atClosing inside stepped with within | closing
          · have shorter := step_shorter stepped
            obtain ⟨n, last, present, takes, ends⟩ := ih _ (by omega) after within rfl
            exact ⟨n + 1, last, present, .succ stepped within takes, ends⟩
          · exact ⟨0, s, store, .zero _, .inl closing⟩

end Scanner

/-! ## Calls without an end -/

/-- The iteration of a range never ends, exactly if its items cannot be listed. -/
theorem Range.toList?_eq_none_iff (r : Range) : r.toList? = none ↔ ∀ n, (r.take n).length = n := by
  constructor
  · intro unlisted n
    obtain ⟨below, still⟩ := r.length?_eq_none_iff.mp (Option.map_eq_none_iff.mp unlisted)
    rw [r.take_endless below still, List.length_replicate]
  · intro endless
    refine Option.eq_none_iff_forall_ne_some.mpr fun items listed => ?_
    have enumerated := (r.toList?_eq_some_iff items).mp listed (items.length + 1)
    have lengths := congrArg List.length enumerated
    rw [List.length_map, endless, List.length_take, List.length_map] at lengths
    omega

theorem Routine.endless_iff (r : Routine) (args : List Value) :
    r.Endless args ↔ r.behaviour = .builtin .list ∧
      ∃ range : Range, args = [.range range] ∧ ∀ n, (range.take n).length = n := by
  simp only [Endless, Range.toList?_eq_none_iff]

/-- Only a call without an end is refused in this way. -/
theorem Routine.call_endless_iff (r : Routine) (caller : ScopeId) (args : List Value)
    (store : Store) : (r.call caller args store).1 = .error .endless ↔ r.Endless args := by
  constructor
  · intro failed
    rcases (r.ensures_call caller args store).fault failed with values | ⟨_, endless⟩
    · exact absurd values Fault.not_ofValues_endless
    · exact endless
  · rintro ⟨behaves, range, rfl, unlisted⟩
    have listed : (r.call caller [.range range] store).1 =
        Library.items (.range range) >>= fun items => pure (.array items) := by
      simp only [Routine.call, behaves]
      rfl
    rw [listed, Library.items, unlisted]
    rfl

namespace Scanner

variable {setting : Setting} {s : Scanner} {store after : Store}

/-- The bracket ahead closes a call that has no end. -/
def CallsEndless (s : Scanner) (store : Store) : Prop :=
  ∃ routine suspended outer values between,
    s.levels = ⟨.call routine, suspended⟩ :: outer ∧ s.cursor.ahead.head? = some ')' ∧
    s.statement.evaluate store = (.ok values, between) ∧ routine.Endless values

theorem enter_ne_endless (opening : Opening) (cursor : Cursor) :
    s.enter setting opening cursor ≠ .error .endless := by
  intro failed
  unfold enter at failed
  split at failed <;> cases failed

theorem name_ne_endless : s.name setting store ≠ (.error .endless, after) := by
  intro failed
  injection failed with failed _
  have read := meets_followName store s.cursor.ahead setting.home "" s.cursor.pos
  rw [← readName] at read
  beta_reduce at failed
  split at failed
  · rename_i unread
    cases failed
    exact Fault.not_ofValues_endless (read.fault unread)
  split at failed
  · rename_i label cursor _ _
    have resolved := store.proper_resolve label.scope label.name
    split at failed
    · rename_i unresolved
      cases failed
      exact Fault.not_ofValues_endless (resolved.fault unresolved)
    · exact enter_ne_endless _ _ failed
    · cases failed
  · cases failed

theorem factorial_ne_endless : s.factorial store ≠ (.error .endless, after) := by
  intro failed
  injection failed with failed _
  beta_reduce at failed
  split at failed
  · cases failed
  · cases failed
  · rename_i token earlier _ _
    split at failed
    · rename_i unresolved
      cases failed
      exact Fault.not_ofValues_endless ((token.proper_resolved store).fault unresolved)
    split at failed
    · cases failed
    · split at failed <;> cases failed

theorem afterGate_ne_endless (result : Value) :
    s.afterGate setting result ≠ .error .endless := by
  intro failed
  unfold afterGate at failed
  simp only at failed
  split at failed
  · split at failed
    · rename_i untrue
      cases failed
      exact Fault.not_ofValues_endless (result.proper_asBool.fault untrue)
    · exact enter_ne_endless _ _ failed
    · split at failed <;> cases failed
  · cases failed

/-- Of the levels that close, only a call can fail so. -/
theorem resume_endless {opening : Opening} {values : List Value}
    (failed : s.resume setting opening values store = (.error .endless, after)) :
    ∃ routine, opening = .call routine ∧ routine.Endless values := by
  cases opening with
  | group pos =>
    simp only [resume] at failed
    split at failed <;> cases failed
  | array => cases failed
  | block => cases failed
  | call routine =>
    rcases Action.bind_error failed with refused | ⟨result, between, _, failed⟩
    · refine ⟨routine, rfl, (routine.call_endless_iff setting.home values store).mp ?_⟩
      exact congrArg Prod.fst refused
    · split at failed
      · injection failed with failed _
        exact absurd failed (afterGate_ne_endless result)
      · cases failed

theorem close_endless {c : Char} (here : s.cursor.ahead.head? = some c)
    (failed : s.close setting c store = (.error .endless, after)) : s.CallsEndless store := by
  cases levels : s.levels with
  | nil =>
    simp only [close, levels] at failed
    cases failed
  | cons level outer =>
    simp only [close, levels] at failed
    split at failed
    · rename_i closes
      rcases Action.bind_error failed with refused | ⟨values, between, evaluated, failed⟩
      · have faults := (s.statement.ensures_evaluate store).fault (congrArg Prod.fst refused)
        rcases faults with other | ⟨op, other⟩
        · exact absurd other Fault.not_ofValues_endless
        · cases other
      · obtain ⟨opening, suspended⟩ := level
        obtain ⟨routine, rfl, endless⟩ := resume_endless failed
        exact ⟨routine, suspended, outer, values, between, levels,
          here.trans (congrArg some closes), evaluated, endless⟩
    · cases failed

theorem symbol_endless {c : Char} {rest : List Char} (here : s.cursor.ahead.head? = some c)
    (failed : s.symbol setting c rest store = (.error .endless, after)) :
    s.CallsEndless store := by
  have entered (opening : Opening) :
      Action.ofExcept (s.enter setting opening (s.cursor.advance 1)) store ≠
        (.error .endless, after) := by
    intro failed
    injection failed with failed _
    exact enter_ne_endless _ _ failed
  cases found : operatorAt? c rest with
  | some operator =>
    simp only [symbol, found] at failed
    cases failed
  | none =>
    simp only [symbol, found] at failed
    split at failed
    · rcases Action.bind_error failed with unread | ⟨_, _, _, failed⟩
      · injection unread with unread _
        unfold readString at unread
        simp only at unread
        split at unread <;> cases unread
      · cases failed
    split at failed
    · exact absurd failed (entered _)
    split at failed
    · exact absurd failed (entered _)
    split at failed
    · cases failed
    split at failed
    · exact close_endless here failed
    split at failed
    · exact absurd failed factorial_ne_endless
    · cases failed

theorem step_endless (failed : s.step setting store = (.error .endless, after)) :
    s.CallsEndless store := by
  cases ahead : s.cursor.ahead with
  | nil =>
    cases levels : s.levels with
    | nil =>
      simp only [step, ahead, levels] at failed
      cases failed
    | cons level outer =>
      simp only [step, ahead, levels] at failed
      cases failed
  | cons c rest =>
    simp only [step, ahead] at failed
    split at failed
    · cases failed
    split at failed
    · rcases Action.bind_error failed with unread | ⟨_, _, _, failed⟩
      · injection unread with unread _
        unfold readNumber at unread
        simp only at unread
        split at unread
        · cases unread
        · split at unread <;> cases unread
      · cases failed
    split at failed
    · exact absurd failed name_ne_endless
    · exact symbol_endless (by rw [ahead]; rfl) failed

/-- The only step that fails so is the one over the bracket of a call without an end. -/
theorem step_endless_iff :
    (s.step setting store).1 = .error .endless ↔ s.CallsEndless store := by
  constructor
  · exact fun failed => step_endless (Prod.ext failed rfl)
  · rintro ⟨routine, suspended, outer, values, between, levels, here, evaluated, endless⟩
    have refused := (routine.call_endless_iff setting.home values between).mpr endless
    rw [step_closer levels here, Action.bind_of_ok evaluated]
    exact congrArg Prod.fst (Action.bind_of_error (Prod.ext refused rfl))

end Scanner

/-! ## The scanner as a whole -/

/-- Scanning makes progress and stays in bounds.  Let the scanner stand anywhere in a text, with any
row and any open levels, in any scope and store.  However many steps it takes from any of the states
that it comes to, inside whichever brackets, calls and blocks, it is at least as many characters
further on and not past the end of the text; and the strings and blocks that are cut out of the text
on the way lie in it.  The level it starts in is read to its end in at most as many steps as there are
characters ahead: the level closes, or a step fails and the whole with it.  Where the level closes,
the place is not in front of the start.  Outside all brackets it is the end of the text, and the
statement has been read; otherwise the bracket stands there that the level was opened for, and the
row around it goes on directly behind.  Of all calls that a step can make, only one would have no
end, that of listing a range whose items never run out: it is refused with a fault of its own, and a
step fails with that fault exactly if it closes the bracket of such a call. -/
theorem scanning_advances_and_ends (text : List Char) {start : Nat} (within : start ≤ text.length)
    (setting : Setting) (row : Row) (levels : List Level) (store : Store) :
    let first : Scanner := ⟨.ofText text start, row, levels⟩
    (∀ n s present, Scanner.Takes setting [] n (first, store) (s, present) →
      (∀ m next after, Scanner.Takes setting [] m (s, present) (next, after) →
        s.cursor.pos + m ≤ next.cursor.pos ∧ next.cursor.pos ≤ text.length) ∧
      s.cursor.StringLiesIn text ∧ (s.cursor.advance 1).behindBlanks.BlockLiesIn text) ∧
    (∃ n last present, Scanner.Takes setting levels n (first, store) (last, present) ∧
      n ≤ text.length - start ∧
      (∀ m other, Scanner.Takes setting levels m (first, store) other → m ≤ n) ∧
      (first.Closes setting store last present ∨
        ∃ fault after, last.step setting present = (.error fault, after) ∧
          first.run setting store = (.error fault, after) ∧
          (fault = .endless ↔ last.CallsEndless present))) ∧
    (∀ last present, first.Closes setting store last present →
      start ≤ last.cursor.pos ∧
      (levels = [] →
        last.cursor.pos = text.length ∧
        first.run setting store = (.ok last.statement, present)) ∧
      ∀ level outer, levels = level :: outer →
        text[last.cursor.pos]? = some level.opening.closer ∧
        last.step setting = last.statement.evaluate >>= Scanner.resume setting
          ⟨last.cursor.advance 1, level.suspended, outer⟩ level.opening) ∧
    ∀ (routine : Routine) (caller : ScopeId) (args : List Value) (s : Store),
      ((routine.call caller args s).1 = .error .endless ↔ routine.Endless args) ∧
      (routine.Endless args ↔ routine.behaviour = .builtin .list ∧
        ∃ range : Range, args = [.range range] ∧ ∀ n, (range.take n).length = n) := by
  intro first
  have lies : first.cursor.LiesIn text := Cursor.liesIn_ofText within
  have starts : first.cursor.pos = start := Nat.min_eq_left within
  refine ⟨fun n s present takes => ?_, ?_, fun last present closes => ?_,
    fun routine caller args s =>
      ⟨routine.call_endless_iff caller args s, routine.endless_iff args⟩⟩
  · obtain ⟨here, _⟩ := takes.advances lies
    refine ⟨fun m next after more => ?_, here.stringLiesIn, here.blockLiesIn_behind⟩
    obtain ⟨further, counted⟩ := more.advances here
    exact ⟨counted, further.bound⟩
  · obtain ⟨n, last, present, takes, ends⟩ :=
      Scanner.exists_end (s := first) setting store (List.suffix_refl levels)
    obtain ⟨there, forward⟩ := takes.advances lies
    have counted : start + n ≤ last.cursor.pos := starts ▸ forward
    have bound : last.cursor.pos ≤ text.length := there.bound
    refine ⟨n, last, present, takes, by omega, fun m other => takes.le_of_ends ends, ?_⟩
    rcases ends with closing | failed
    · exact .inl ⟨takes.stays, closing.levels, closing.closer⟩
    · obtain ⟨fault, after, failed⟩ := failed
      refine .inr ⟨fault, after, failed,
        takes.reaches.run_eq.trans (Scanner.run_of_error failed), ?_⟩
      rw [← Scanner.step_endless_iff, failed, Except.error.injEq]
  · obtain ⟨stays, same, here⟩ := closes
    obtain ⟨n, takes⟩ := stays.exists_takes
    obtain ⟨there, forward⟩ := takes.advances lies
    have counted : start + n ≤ last.cursor.pos := starts ▸ forward
    refine ⟨by omega, fun outermost => ?_, fun level outer inside => ?_⟩
    · subst outermost
      have ahead : last.cursor.ahead = [] := List.head?_eq_none_iff.mp here
      have length := there.length_ahead
      rw [ahead, List.length_nil, Nat.add_zero] at length
      exact ⟨length, takes.reaches.run_eq.trans (Scanner.run_end ahead same setting present)⟩
    · subst inside
      exact ⟨there.getElem?.trans here, Scanner.step_closer same here⟩

/-- Inside an array, a bracket around a string: three steps lead to the bracket that closes the
array. -/
theorem scanning_advances_and_ends_nested :
    let setting : Setting := ⟨⟨0⟩, 2⟩
    let text := "[('a')]".toList
    let array : List Level := [⟨.array, .empty⟩]
    let first : Scanner := ⟨.ofText text 1, .empty, array⟩
    let last : Scanner := ⟨⟨6, [']']⟩, ⟨[.value (.string "a")], []⟩, array⟩
    1 ≤ text.length ∧
    Scanner.Takes setting [] 3 (first, Store.empty) (last, Store.empty) ∧
    1 + 3 ≤ last.cursor.pos ∧ last.cursor.pos ≤ text.length ∧
    first.Closes setting Store.empty last Store.empty ∧ text[6]? = some ']' := by
  intro setting text array first last
  have within : 1 ≤ text.length := by decide
  let group : List Level := ⟨.group 1, .empty⟩ :: array
  let start : Scanner := ⟨⟨1, "('a')]".toList⟩, .empty, array⟩
  let opened : Scanner := ⟨⟨2, "'a')]".toList⟩, .empty, group⟩
  let quoted : Scanner := ⟨⟨5, ")]".toList⟩, ⟨[.value (.string "a")], []⟩, group⟩
  have bracket : start.step setting Store.empty = (.ok (.more opened), Store.empty) := rfl
  have string : opened.step setting Store.empty = (.ok (.more quoted), Store.empty) := rfl
  have closed : quoted.step setting Store.empty = (.ok (.more last), Store.empty) := by
    rw [Scanner.step_closer rfl rfl]
    cbv
  have takes {base : List Level} (inside : base <:+ array) :
      Scanner.Takes setting base 3 (first, Store.empty) (last, Store.empty) := by
    have deeper : base <:+ group := inside.trans (List.suffix_cons _ _)
    exact .succ bracket deeper (.succ string deeper (.succ closed inside (.zero _)))
  have closes : first.Closes setting Store.empty last Store.empty :=
    ⟨(takes (List.suffix_refl array)).stays, rfl, rfl⟩
  have steps := takes List.nil_suffix
  obtain ⟨advances, _, returns, _⟩ :=
    scanning_advances_and_ends text within setting .empty array Store.empty
  obtain ⟨forward, inside⟩ := (advances 0 first Store.empty (.zero _)).1 3 last Store.empty steps
  exact ⟨within, steps, forward, inside, closes,
    ((returns last Store.empty closes).2.2 _ [] rfl).1⟩

end Scriptlet
