import Scriptlet.Proofs.Sequels
set_option autoImplicit false

/-!
# Reading from inside a text

Reading may start anywhere in a text, and what lies in front of the start is not looked at.  The
same tokens are read, the same calls are made and the same faults are met as in a text that begins
there; only positions count from the start of the whole text, so that a message which mentions one
mentions a larger one.
-/

namespace Scriptlet

/-! ## Positions in messages -/

/-- Two texts that are the same but for a number, which is `m` in the first and `n` in the second. -/
def DifferIn (m n : Nat) (a b : String) : Prop :=
  ∃ front back : String, a = front ++ toString m ++ back ∧ b = front ++ toString n ++ back

theorem differIn_end (m n : Nat) (front : String) :
    DifferIn m n (front ++ toString m) (front ++ toString n) :=
  ⟨front, "", String.append_empty.symm, String.append_empty.symm⟩

theorem DifferIn.append {m n : Nat} {a b : String} (differ : DifferIn m n a b) (more : String) :
    DifferIn m n (a ++ more) (b ++ more) := by
  obtain ⟨front, back, rfl, rfl⟩ := differ
  exact ⟨front, back ++ more, String.append_assoc .., String.append_assoc ..⟩

namespace Fault

/-- The position that the message of a fault mentions. -/
def position? : Fault → Option Nat
  | unexpectedChar _ pos => some pos
  | factorialOperand pos => some pos
  | strayBlock pos => some pos
  | bracketCount pos _ => some pos
  | twoPoints pos => some pos
  | noDigits pos => some pos
  | openBlock pos => some pos
  | openString pos _ => some pos
  | strayClosing _ pos => some pos
  | closingMismatch _ pos _ => some pos
  | _ => none

theorem position?_shift (fault : Fault) (offset : Nat) :
    (fault.shift offset).position? = fault.position?.map (· + offset) := by
  cases fault <;> rfl

theorem shift_of_unplaced {fault : Fault} (unplaced : fault.position? = none) (offset : Nat) :
    fault.shift offset = fault := by
  unfold shift
  split
  case h_11 => rfl
  all_goals cases unplaced

/-- Further on, a message that mentions a position is the same around another one. -/
theorem message_shift {fault : Fault} {pos : Nat} (placed : fault.position? = some pos)
    (offset : Nat) : DifferIn pos (pos + offset) fault.message (fault.shift offset).message := by
  -- One case for each fault with a position, in the order of `position?`.
  unfold position? at placed
  split at placed <;> cases placed
  · exact differIn_end ..
  · exact (differIn_end ..).append _
  · exact (differIn_end ..).append _
  · exact (((differIn_end ..).append _).append _).append _
  · exact (differIn_end ..).append _
  · exact (differIn_end ..).append _
  · exact (differIn_end ..).append _
  · exact ((differIn_end ..).append _).append _
  · exact (differIn_end ..).append _
  · exact (((differIn_end ..).append _).append _).append _

end Fault

/-! ## Two starts -/

/-- What lies in front of the start only moves the text. -/
theorem scan_ofText (setting : Setting) (text : List Char) {k : Nat} (within : k ≤ text.length)
    (store : Store) :
    let rest := scan setting (.ofText (text.drop k) 0) store
    scan setting (.ofText text k) store = (takeOver k id rest.1, rest.2) := by
  let sequel : Sequel := ⟨k, .empty, fun _ found => by cases found⟩
  have start : sequel.scanner ⟨.ofText (text.drop k) 0, .empty, []⟩ =
      ⟨.ofText text k, .empty, []⟩ := by
    simp [sequel, Sequel.scanner, Sequel.cursor, Sequel.row, Sequel.below, Sequel.levels,
      Cursor.ofText, Row.empty, within]
  have same : sequel.statement = id := by
    funext st
    simp [sequel, Sequel.statement, Statement.append, Row.statement, Row.empty]
  have further := sequel.run_further setting
    (Scanner.mirrored_start (.ofText (text.drop k) 0)) store
  rw [start, same] at further
  exact further

namespace Draft

theorem readFrom_natCast (d : Draft) (source : String) (k : Nat) :
    d.readFrom source k = do
      let added ← scan d.setting (.ofText source.toList k)
      return { d with statement := d.statement.append added } :=
  if_neg (Int.not_lt.mpr (Int.natCast_nonneg k))

theorem edit_of_ok {d edited : Draft} {e : Edit} {store after : Store}
    (done : e.apply d store = (.ok edited, after)) : d.edit e store = (.ok (), edited, after) := by
  rw [edit, done]

theorem edit_of_fault {d : Draft} {e : Edit} {store after : Store} {fault : Fault}
    (failed : e.apply d store = (.error fault, after)) :
    d.edit e store = (.error fault, d, after) := by
  rw [edit, failed]

end Draft

/-- Reading depends only on what lies ahead.  Into whatever draft and in whatever store, a text is
read from its character `k` on with the outcome of reading the text without its first `k`
characters.  Both succeed, add the same tokens and operators to the draft and leave the same store,
with the same text printed; or both fail with the same code, leave the draft as it was, and leave the
same store.  Their messages are then equal where they mention no position, and otherwise they are the
same but for the position, which is larger by `k`. -/
theorem reading_depends_on_what_lies_ahead (d : Draft) (source : String) (k : Nat)
    (within : k ≤ source.length) (store : Store) :
    let whole := d.edit (.readFrom source k) store
    let rest := d.edit (.read (String.ofList (source.toList.drop k))) store
    ∃ after,
      (∃ added,
        whole = (.ok (), { d with statement := d.statement.append added }, after) ∧
        rest = (.ok (), { d with statement := d.statement.append added }, after)) ∨
      ∃ fault other,
        rest = (.error fault, d, after) ∧ whole = (.error other, d, after) ∧
        other.code = fault.code ∧
        (fault.position? = none → other.message = fault.message) ∧
        ∀ pos, fault.position? = some pos →
          other.position? = some (pos + k) ∧ DifferIn pos (pos + k) fault.message other.message := by
  intro whole rest
  have further := scan_ofText d.setting source.toList within store
  have read_whole : Draft.Edit.apply d (.readFrom source k) = _ := d.readFrom_natCast source k
  have read_rest : Draft.Edit.apply d (.read (String.ofList (source.toList.drop k))) = _ :=
    d.readFrom_natCast _ 0
  rw [String.toList_ofList] at read_rest
  cases alone : scan d.setting (.ofText (source.toList.drop k) 0) store with
  | mk result after =>
    rw [alone] at further
    refine ⟨after, ?_⟩
    cases result with
    | ok added =>
      refine .inl ⟨added, Draft.edit_of_ok ?_, Draft.edit_of_ok ?_⟩
      · exact (congrFun read_whole store).trans (Action.bind_of_ok further)
      · exact (congrFun read_rest store).trans (Action.bind_of_ok alone)
    | error fault =>
      refine .inr ⟨fault, fault.shift k, Draft.edit_of_fault ?_, Draft.edit_of_fault ?_,
        fault.code_shift k, fun unplaced => ?_, fun pos placed => ⟨?_, ?_⟩⟩
      · exact (congrFun read_rest store).trans (Action.bind_of_error alone)
      · exact (congrFun read_whole store).trans (Action.bind_of_error further)
      · rw [Fault.shift_of_unplaced unplaced]
      · rw [Fault.position?_shift, placed, Option.map_some]
      · exact Fault.message_shift placed k

/-- A bracket around two values, alone and behind another text: its position is four in place of
zero. -/
theorem reading_depends_on_what_lies_ahead_bracket :
    let d := Draft.new ⟨0⟩ 2
    4 ≤ "'a';(['b'],'c')".length ∧
    d.edit (.read "(['b'],'c')") Store.empty = (.error (.bracketCount 0 2), d, Store.empty) ∧
    ∃ other, d.edit (.readFrom "'a';(['b'],'c')" 4) Store.empty = (.error other, d, Store.empty) ∧
      other.code.number = 170 ∧ other.position? = some 4 ∧
      DifferIn 0 4 "brackets at 0 wrap 2 values, expected one" other.message := by
  intro d
  have within : 4 ≤ "'a';(['b'],'c')".length := by decide
  have failed : d.edit (.read "(['b'],'c')") Store.empty =
      (.error (.bracketCount 0 2), d, Store.empty) := by cbv
  obtain ⟨after, ⟨added, _, done⟩ | ⟨fault, other, same, whole, code, _, moved⟩⟩ :=
    reading_depends_on_what_lies_ahead d "'a';(['b'],'c')" 4 within Store.empty
  · cases failed.symm.trans done
  · cases failed.symm.trans same
    exact ⟨within, failed, other, whole, by rw [code]; rfl, moved 0 rfl⟩

end Scriptlet
