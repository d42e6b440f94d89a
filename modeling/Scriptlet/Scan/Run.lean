import Scriptlet.Scan.Machine
set_option autoImplicit false

/-!
# Scanning: a whole line

Every step that leaves more to read has read a character, so the scanner comes to an end on every
text.
-/

namespace Scriptlet

namespace Scanner

/-! ## Every step reads a character -/

theorem enter_cursor {setting : Setting} {s next : Scanner} {opening : Opening} {cursor : Cursor}
    (entered : s.enter setting opening cursor = .ok (.more next)) : next.cursor = cursor := by
  unfold enter at entered
  split at entered <;> cases entered
  rfl

theorem name_shorter {setting : Setting} {s next : Scanner} {store after : Store} {c : Char}
    {rest : List Char} (ahead : s.cursor.ahead = c :: rest) (start : isNameStart c = true)
    (stepped : s.name setting store = (.ok (.more next), after)) :
    next.cursor.ahead.length < s.cursor.ahead.length := by
  unfold name at stepped
  rw [Action.ask_apply] at stepped
  injection stepped with stepped _
  split at stepped
  · cases stepped
  · rename_i label cursor read
    have shorter := readName_shorter ahead start read
    split at stepped
    · split at stepped
      · cases stepped
      · rw [enter_cursor stepped]
        simp only [Cursor.advance, List.length_drop]
        omega
      · cases stepped
    · cases stepped
      exact shorter

theorem factorial_shorter {s next : Scanner} {store after : Store} {c : Char} {rest : List Char}
    (ahead : s.cursor.ahead = c :: rest)
    (stepped : s.factorial store = (.ok (.more next), after)) :
    next.cursor.ahead.length < s.cursor.ahead.length := by
  unfold factorial at stepped
  rw [Action.ask_apply] at stepped
  injection stepped with stepped _
  repeat' split at stepped
  all_goals cases stepped
  exact Cursor.advance_shorter (by simp [ahead]) (by omega)

theorem afterGate_length {setting : Setting} {s next : Scanner} {result : Value}
    (stepped : s.afterGate setting result = .ok (.more next)) :
    next.cursor.ahead.length ≤ s.cursor.ahead.length := by
  unfold afterGate at stepped
  simp only at stepped
  split at stepped
  · split at stepped
    · cases stepped
    · rw [enter_cursor stepped]
      simp only [Cursor.advance, List.length_drop]
      omega
    · split at stepped <;> cases stepped
      simp only [add, Cursor.advance, List.length_drop]
      omega
  · cases stepped
    exact Nat.le_refl _

theorem resume_length {setting : Setting} {s next : Scanner} {opening : Opening}
    {values : List Value} {store after : Store}
    (stepped : s.resume setting opening values store = (.ok (.more next), after)) :
    next.cursor.ahead.length ≤ s.cursor.ahead.length := by
  unfold resume at stepped
  split at stepped
  · split at stepped <;> cases stepped
    exact Nat.le_refl _
  · cases stepped
    exact Nat.le_refl _
  · cases stepped
    exact Nat.le_refl _
  · obtain ⟨result, between, _, stepped⟩ := Action.bind_ok stepped
    split at stepped
    · injection stepped with stepped _
      exact afterGate_length stepped
    · cases stepped
      exact Nat.le_refl _

theorem close_shorter {setting : Setting} {s next : Scanner} {store after : Store} {c d : Char}
    {rest : List Char} (ahead : s.cursor.ahead = c :: rest)
    (stepped : s.close setting d store = (.ok (.more next), after)) :
    next.cursor.ahead.length < s.cursor.ahead.length := by
  cases levels : s.levels with
  | nil =>
    simp only [close, levels] at stepped
    cases stepped
  | cons level outer =>
    simp only [close, levels] at stepped
    by_cases closes : d = level.opening.closer
    · rw [if_pos closes] at stepped
      obtain ⟨values, between, _, stepped⟩ := Action.bind_ok stepped
      exact Nat.lt_of_le_of_lt (resume_length stepped)
        (Cursor.advance_shorter (by simp [ahead]) (by omega))
    · rw [if_neg closes] at stepped
      cases stepped

theorem symbol_shorter {setting : Setting} {s next : Scanner} {store after : Store} {c : Char}
    {rest : List Char} (ahead : s.cursor.ahead = c :: rest)
    (stepped : s.symbol setting c rest store = (.ok (.more next), after)) :
    next.cursor.ahead.length < s.cursor.ahead.length := by
  have some_ahead : s.cursor.ahead ≠ [] := by simp [ahead]
  have entered {opening : Opening}
      (h : Action.ofExcept (s.enter setting opening (s.cursor.advance 1)) store =
        (.ok (.more next), after)) :
      next.cursor.ahead.length < s.cursor.ahead.length := by
    injection h with h _
    rw [enter_cursor h]
    exact Cursor.advance_shorter some_ahead (by omega)
  cases found : operatorAt? c rest with
  | some pair =>
    simp only [symbol, found] at stepped
    cases stepped
    exact Cursor.advance_shorter some_ahead (operatorAt?_width found)
  | none =>
    simp only [symbol, found] at stepped
    split at stepped
    · obtain ⟨⟨text, cursor⟩, between, read, stepped⟩ := Action.bind_ok stepped
      cases stepped
      injection read with read _
      exact readString_shorter ahead read
    split at stepped
    · exact entered stepped
    split at stepped
    · exact entered stepped
    split at stepped
    · cases stepped
    split at stepped
    · exact close_shorter ahead stepped
    split at stepped
    · exact factorial_shorter ahead stepped
    · cases stepped

/-- A step that leaves more to read has read at least one character. -/
theorem step_shorter {setting : Setting} {s next : Scanner} {store after : Store}
    (stepped : s.step setting store = (.ok (.more next), after)) :
    next.cursor.ahead.length < s.cursor.ahead.length := by
  cases ahead : s.cursor.ahead with
  | nil =>
    cases levels : s.levels <;> simp only [step, ahead, levels] at stepped <;> cases stepped
  | cons c rest =>
    rw [← ahead]
    simp only [step, ahead] at stepped
    split at stepped
    · cases stepped
      exact Cursor.advance_shorter (by simp [ahead]) (by omega)
    split at stepped
    · rename_i start
      obtain ⟨⟨n, cursor⟩, between, read, stepped⟩ := Action.bind_ok stepped
      cases stepped
      injection read with read _
      exact readNumber_shorter ahead start read
    split at stepped
    · exact name_shorter ahead (by assumption) stepped
    · exact symbol_shorter ahead stepped

/-! ## To the end -/

/-- Steps until the line has ended or a step fails. -/
def run (setting : Setting) (s : Scanner) (store : Store) : Except Fault Statement × Store :=
  match _stepped : s.step setting store with
  | (.error fault, after) => (.error fault, after)
  | (.ok (.done statement), after) => (.ok statement, after)
  | (.ok (.more next), after) => next.run setting after
termination_by s.cursor.ahead.length
decreasing_by exact step_shorter _stepped

end Scanner

/-- Reads the text from the cursor on as one statement. -/
def scan (setting : Setting) (cursor : Cursor) : Action Statement :=
  Scanner.run setting ⟨cursor, .empty, []⟩

end Scriptlet
