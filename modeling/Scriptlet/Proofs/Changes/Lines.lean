import Scriptlet.Proofs.Changes.Calls
import Scriptlet.Proofs.Lockstep.Scanning
set_option autoImplicit false

/-!
# Lines are made of small changes

A line holds values while it is read: in the row of the present level and in the suspended rows
around it.  As long as the store admits them, every step of the scanner and every operator that is
applied is made of small changes, and leaves values that the store then admits.  Labels need no such
care: what is declared in a scope that is not there changes nothing.
-/

namespace Scriptlet

/-! ## Tokens -/

/-- In a store of `n` scopes the token may stand: only a value can fail to. -/
inductive Token.Admitted (c : Census) (n : Nat) : Token → Prop where
  | value {v : Value} (admitted : v.Admitted c n) : Admitted c n (.value v)
  | label (l : Label) : Admitted c n (.label l)
  | operator (op : Operator) : Admitted c n (.operator op)

/-- In a store of `n` scopes all the tokens may stand. -/
abbrev Token.AllAdmitted (c : Census) (n : Nat) (tokens : List Token) : Prop :=
  ∀ token ∈ tokens, token.Admitted c n

theorem Token.Admitted.mono {c : Census} {n m : Nat} (more : n ≤ m) {token : Token}
    (admitted : token.Admitted c n) : token.Admitted c m := by
  cases admitted with
  | value admitted => exact .value (admitted.mono more)
  | label l => exact .label l
  | operator op => exact .operator op

theorem Token.AllAdmitted.mono {c : Census} {n m : Nat} (more : n ≤ m) {tokens : List Token}
    (admitted : Token.AllAdmitted c n tokens) : Token.AllAdmitted c m tokens :=
  fun token member => (admitted token member).mono more

theorem Store.Sound.resolved {c : Census} {s : Store} (sound : s.Sound c) {token : Token}
    (admitted : token.Admitted c s.scopes.size) {v : Value} (done : token.resolved s = .ok v) :
    v.Admitted c s.scopes.size := by
  cases admitted with
  | value admitted =>
    cases done
    exact admitted
  | label l => exact sound.resolve done
  | operator op => cases done

/-! ## Reduction -/

/-- A write is admitted if the value that is written is. -/
def Outcome.Admitted (c : Census) (n : Nat) : Outcome → Prop
  | .value v => v.Admitted c n
  | .mutation m => m.value.Admitted c n

theorem traced_commit {c : Census} {n : Nat} (m : Mutation) (admitted : m.value.Admitted c n) :
    m.commit.Traced c n fun k v => v.Admitted c k := by
  rw [Mutation.commit]
  split
  · exact (traced_changeBy _ _ m.value _).mono fun _ _ atom => atom.admitted
  · exact .bind (traced_declare _ _ admitted) fun k _ more _ => .pure fun _ evenMore =>
      admitted.mono (Nat.le_trans more evenMore)

theorem Store.Sound.evaluate {c : Census} {s : Store} (sound : s.Sound c) {op : Operator}
    {left right : Token} (operand : right.Admitted c s.scopes.size) {outcome : Outcome}
    (done : op.evaluate left right s = .ok outcome) : outcome.Admitted c s.scopes.size := by
  unfold Operator.evaluate at done
  split at done
  · cases done
  · cases done
  split at done
  · split at done
    · obtain ⟨v, resolved, done⟩ := except_bind_ok done
      cases done
      exact sound.resolved operand resolved
    · cases done
  · obtain ⟨a, _, done⟩ := except_bind_ok done
    obtain ⟨b, _, done⟩ := except_bind_ok done
    obtain ⟨v, applied, done⟩ := except_bind_ok done
    cases done
    exact (Operator.isAtom_apply applied).admitted

theorem traced_settle {c : Census} {n : Nat} {outcome : Outcome}
    (admitted : outcome.Admitted c n) :
    outcome.settle.Traced c n fun m token => token.Admitted c m := by
  cases outcome with
  | value v => exact .pure fun _ more => .value (Value.Admitted.mono more admitted)
  | mutation m => exact .bind (traced_commit m admitted) fun _ _ _ _ => .pure fun _ _ => .label _

/-- Applying an operator in the middle of a row. -/
theorem traced_operate {c : Census} {n : Nat} (op : Operator) (left : Token) {right : Token}
    (operand : right.Admitted c n) {before after : List Token}
    (front : Token.AllAdmitted c n before) (back : Token.AllAdmitted c n after) :
    (do let outcome ← Action.ask (op.evaluate left right)
        let result ← outcome.settle
        return before.reverseAux (result :: after)).Traced c n (Token.AllAdmitted c) := by
  refine .bind (R := fun m outcome => outcome.Admitted c m) (.ask ?_) fun m outcome more done => ?_
  · intro s sound enough outcome done
    exact sound.evaluate (operand.mono enough) done
  refine .bind (traced_settle done) fun k result evenMore token => .pure fun last most => ?_
  have grown := Nat.le_trans more (Nat.le_trans evenMore most)
  intro t member
  rw [List.reverseAux_eq, List.mem_append, List.mem_reverse, List.mem_cons] at member
  rcases member with early | rfl | late
  · exact (front t early).mono grown
  · exact token.mono most
  · exact (back t late).mono grown

theorem traced_applyFirst {c : Census} {n : Nat} (op : Operator) {tokens : List Token}
    (admitted : Token.AllAdmitted c n tokens) :
    (applyFirst op tokens).Traced c n (Token.AllAdmitted c) := by
  rw [applyFirst]
  split
  · exact .fail _
  · exact .fail _
  rename_i before right rest found
  obtain ⟨front, passed, whole⟩ := splitAtOperator_some found
  have early : Token.AllAdmitted c n before := by
    intro t member
    rw [passed, List.append_nil, List.mem_reverse] at member
    exact admitted t (by simp [whole, member])
  have operand : right.Admitted c n := admitted right (by simp [whole])
  have late : Token.AllAdmitted c n rest := fun t member => admitted t (by simp [whole, member])
  split
  · rename_i left earlier taken
    obtain ⟨_, rfl⟩ := leftOperand?_some taken
    exact traced_operate op left operand (fun t member => early t (.tail _ member)) late
  · split
    · exact traced_operate op _ operand early late
    · exact .fail _

theorem traced_applyAll {c : Census} (operators : List Operator) {n : Nat} {tokens : List Token}
    (admitted : Token.AllAdmitted c n tokens) :
    (applyAll operators tokens).Traced c n (Token.AllAdmitted c) := by
  induction operators generalizing n tokens with
  | nil => exact .pure fun _ more => admitted.mono more
  | cons op rest ih => exact .bind (traced_applyFirst op admitted) fun _ _ _ reduced => ih reduced

/-- The values of a row of admitted tokens, read from a value on and from a separator on. -/
theorem Store.Sound.collectValues {c : Census} {s : Store} (sound : s.Sound c)
    (whole : List Token) {tokens : List Token}
    (admitted : Token.AllAdmitted c s.scopes.size tokens) :
    (∀ values, collectValues whole s tokens = .ok values →
      Value.AllAdmitted c s.scopes.size values) ∧
    ∀ values, collectSeparator whole s tokens = .ok values →
      Value.AllAdmitted c s.scopes.size values := by
  induction tokens with
  | nil =>
    constructor
    all_goals
      intro values done
      cases done
      exact List.forall_mem_nil _
  | cons token rest ih =>
    obtain ⟨first, others⟩ := List.forall_mem_cons.mp admitted
    constructor
    · intro values done
      cases kind : token.isOperator with
      | true =>
        cases token with
        | operator op => cases done
        | value _ => cases kind
        | label _ => cases kind
      | false =>
        rw [collectValues_cons whole s kind] at done
        obtain ⟨v, resolved, done⟩ := except_bind_ok done
        obtain ⟨later, collected, done⟩ := except_bind_ok done
        cases done
        exact List.forall_mem_cons.mpr
          ⟨sound.resolved first resolved, (ih others).2 later collected⟩
    · intro values done
      rw [collectSeparator] at done
      split at done
      · exact (ih others).1 values done
      · cases done

theorem traced_evaluate {c : Census} {n : Nat} (st : Statement)
    (admitted : Token.AllAdmitted c n st.tokens) :
    st.evaluate.Traced c n (Value.AllAdmitted c) := by
  refine .bind (traced_applyAll _ admitted) fun m tokens _ reduced => .ask ?_
  intro s sound enough values done
  rw [collect] at done
  split at done
  · cases done
  · exact (sound.collectValues tokens (reduced.mono enough)).1 values done

/-! ## The scanner -/

/-- The values that a scanner holds are admitted. -/
structure Scanner.Admitted (c : Census) (n : Nat) (s : Scanner) : Prop where
  row : Token.AllAdmitted c n s.row.tokens
  levels : ∀ level ∈ s.levels, Token.AllAdmitted c n level.suspended.tokens

/-- What a step has come to holds admitted values. -/
inductive Progress.Admitted (c : Census) (n : Nat) : Progress → Prop where
  | more {next : Scanner} (held : next.Admitted c n) : Admitted c n (.more next)
  | done {statement : Statement} (tokens : Token.AllAdmitted c n statement.tokens) :
      Admitted c n (.done statement)

namespace Scanner.Admitted

variable {c : Census} {n m : Nat} {s : Scanner}

theorem mono (more : n ≤ m) (admitted : s.Admitted c n) : s.Admitted c m :=
  ⟨admitted.row.mono more, fun level member => (admitted.levels level member).mono more⟩

theorem add (admitted : s.Admitted c n) {token : Token} (new : token.Admitted c n)
    (cursor : Cursor) : (s.add token cursor).Admitted c n :=
  ⟨List.forall_mem_cons.mpr ⟨new, admitted.row⟩, admitted.levels⟩

theorem enter (admitted : s.Admitted c n) {setting : Setting} {opening : Opening} {cursor : Cursor}
    {p : Progress} (done : s.enter setting opening cursor = .ok p) : p.Admitted c n := by
  rw [Scanner.enter] at done
  split at done <;> cases done
  exact .more ⟨List.forall_mem_nil _, List.forall_mem_cons.mpr ⟨admitted.row, admitted.levels⟩⟩

theorem afterGate (admitted : s.Admitted c n) {setting : Setting} {result : Value}
    (value : result.Admitted c n) {p : Progress} (done : s.afterGate setting result = .ok p) :
    p.Admitted c n := by
  unfold Scanner.afterGate at done
  simp only at done
  split at done
  · split at done
    · cases done
    · exact admitted.enter done
    · split at done <;> cases done
      exact .more (admitted.add (.value (Value.admitted_array_iff.mpr (List.forall_mem_nil _))) _)
  · cases done
    exact .more (admitted.add (.value value) _)

variable {setting : Setting}

theorem name (admitted : s.Admitted c n) :
    (s.name setting).Traced c n fun m p => p.Admitted c m := by
  refine .ask fun store _ enough p done => ?_
  have held := admitted.mono enough
  split at done
  · cases done
  split at done
  · split at done
    · cases done
    · exact held.enter done
    · cases done
  · cases done
    exact .more (held.add (.label _) _)

theorem factorial (admitted : s.Admitted c n) :
    s.factorial.Traced c n fun m p => p.Admitted c m := by
  refine .ask fun store _ enough p done => ?_
  have held := admitted.mono enough
  split at done
  · cases done
  · cases done
  rename_i token earlier _ row
  split at done
  · cases done
  split at done
  · cases done
  split at done <;> cases done
  have rest := (List.forall_mem_cons.mp (row ▸ held.row)).2
  refine .more ⟨List.forall_mem_cons.mpr ⟨.value ?_, rest⟩, held.levels⟩
  exact Value.IsAtom.admitted trivial

theorem resume (admitted : s.Admitted c n) (opening : Opening) {values : List Value}
    (given : Value.AllAdmitted c n values) :
    (s.resume setting opening values).Traced c n fun m p => p.Admitted c m := by
  have gathered : (return .more (s.add (.value (.array values)) s.cursor) : Action Progress).Traced
      c n fun m p => p.Admitted c m :=
    .pure fun _ more => .more
      ((admitted.mono more).add (.value (Value.admitted_array_iff.mpr (given.mono more))) _)
  cases opening with
  | group pos =>
    cases values with
    | nil => exact .fail _
    | cons value others =>
      cases others with
      | nil =>
        have only := given value List.mem_cons_self
        exact .pure fun _ more => .more ((admitted.mono more).add (.value (only.mono more)) _)
      | cons _ _ => exact .fail _
  | array => exact gathered
  | block => exact gathered
  | call routine =>
    refine .bind (traced_call routine setting.home given) fun m result more value => ?_
    split
    · exact .ofExcept fun _ evenMore p done =>
        (admitted.mono (Nat.le_trans more evenMore)).afterGate (value.mono evenMore) done
    · exact .pure fun _ evenMore => .more
        ((admitted.mono (Nat.le_trans more evenMore)).add (.value (value.mono evenMore)) _)

theorem close (admitted : s.Admitted c n) (closing : Char) :
    (s.close setting closing).Traced c n fun m p => p.Admitted c m := by
  rw [Scanner.close]
  split
  · exact .fail _
  rename_i level outer levels
  split
  · have row : Token.AllAdmitted c n s.statement.tokens :=
      fun token member => admitted.row token (List.mem_reverse.mp member)
    have suspended := List.forall_mem_cons.mp (levels ▸ admitted.levels)
    refine .bind (traced_evaluate s.statement row) fun m values more given => ?_
    exact resume ⟨suspended.1.mono more, fun l member => (suspended.2 l member).mono more⟩
      level.opening given
  · exact .fail _

theorem symbol (admitted : s.Admitted c n) (first : Char) (rest : List Char) :
    (s.symbol setting first rest).Traced c n fun m p => p.Admitted c m := by
  rw [Scanner.symbol]
  split
  · exact .pure fun _ more => .more ((admitted.mono more).add (.operator _) _)
  split
  · refine .ask_bind fun read => .pure fun _ more => .more ((admitted.mono more).add (.value ?_) _)
    exact Value.IsAtom.admitted trivial
  split
  · exact .ofExcept fun _ more _ done => (admitted.mono more).enter done
  split
  · exact .ofExcept fun _ more _ done => (admitted.mono more).enter done
  split
  · exact .fail _
  split
  · exact admitted.close _
  split
  · exact admitted.factorial
  · exact .fail _

/-- What one step does to the store is made of small changes, and the values in flight stay
admitted. -/
theorem step (admitted : s.Admitted c n) :
    (s.step setting).Traced c n fun m p => p.Admitted c m := by
  rw [Scanner.step]
  split
  · split
    · exact .pure fun _ more => .done fun token member =>
        (admitted.mono more).row token (List.mem_reverse.mp member)
    · exact .fail _
  split
  · exact .pure fun _ more => .more ⟨(admitted.mono more).row, (admitted.mono more).levels⟩
  split
  · refine .ask_bind fun read => .pure fun _ more => .more ((admitted.mono more).add (.value ?_) _)
    exact Value.IsAtom.admitted trivial
  split
  · exact admitted.name
  · exact admitted.symbol _ _

/-- What the scanner does to the end of the line.  Each step that leaves more to read has read a
character, so the induction is on the number of characters ahead. -/
theorem run (admitted : s.Admitted c n) :
    Action.Traced c n (fun m statement => Token.AllAdmitted c m statement.tokens)
      (s.run setting) := by
  induction ahead : s.cursor.ahead.length using Nat.strongRecOn generalizing n s with
  | ind length ih =>
    rw [Scanner.run_eq]
    refine .bind admitted.step.produced fun m p _ progress => ?_
    obtain ⟨held, store, after, stepped⟩ := progress
    cases held with
    | done tokens => exact .pure fun _ more => tokens.mono more
    | more held =>
      have shorter := Scanner.step_shorter stepped
      exact ih _ (by omega) held rfl

end Scanner.Admitted

/-- Interpreting a line is made of small changes, and its values are admitted. -/
theorem traced_interpret {c : Census} {n : Nat} (options : Options) (home : ScopeId)
    (line : String) : (interpret options home line).Traced c n (Value.AllAdmitted c) := by
  rw [interpret_eq]
  refine .bind (Scanner.Admitted.run ⟨List.forall_mem_nil _, List.forall_mem_nil _⟩) ?_
  intro m statement _ tokens
  exact traced_evaluate statement tokens

end Scriptlet
