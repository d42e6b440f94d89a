import Scriptlet.Proofs.Moves
import Scriptlet.Proofs.Separators
set_option autoImplicit false

/-!
# Statements list their own operators

A statement keeps its operators beside its tokens, and the two are changed by several hands: tokens
are pushed, statements appended, separators chained, and a factorial is written over the last
operand.  On every draft, after any edits, and on every level of brackets while a text is read, the
operators listed are those among the tokens, in their order.  Therefore evaluation always finds the
operator it is about to apply, and a line never fails with a fault that speaks of a missing one.
-/

namespace Scriptlet

/-! ## Drafts -/

namespace Statement

theorem mirrored_empty : empty.Mirrored := rfl

theorem Mirrored.push {st : Statement} (mirrored : st.Mirrored) (token : Token) :
    (st.push token).Mirrored := by
  rw [Mirrored, Statement.push, mirrored, List.filterMap_append, Token.filterMap_operator?_cons,
    List.filterMap_nil, List.append_nil]

theorem Mirrored.append {st other : Statement} (mirrored : st.Mirrored)
    (also : other.Mirrored) : (st.append other).Mirrored := by
  rw [Mirrored, Statement.append, mirrored, also, List.filterMap_append]

end Statement

/-- A text is read to a statement that lists its operators, or fails with an ordinary fault or at
the limit on nesting. -/
theorem ensures_scan (setting : Setting) (cursor : Cursor) :
    (scan setting cursor).Ensures Statement.Mirrored fun fault =>
      fault.Ordinary ∨ fault = .tooDeep setting.maxDepth := by
  refine Scanner.ensures_run (fun _ _ => trivial) ?_ (Scanner.mirrored_start cursor) trivial
  rintro s fault _ (tokens | ⟨brackets, _⟩ | _)
  · exact .inl tokens.ordinary
  · exact .inl brackets.ordinary
  · exact .inr rfl

namespace Draft

/-- The draft after an edit that succeeds. -/
theorem ensures_apply {d : Draft} (mirrored : d.statement.Mirrored) (e : Edit) :
    (e.apply d).Ensures (fun edited => edited.statement.Mirrored) fun _ => True := by
  have read (source : String) (start : Int) :
      (d.readFrom source start).Ensures (fun edited => edited.statement.Mirrored)
        fun _ => True := by
    rw [readFrom]
    split
    · exact .fail trivial
    · refine ((ensures_scan _ _).mono (fun _ => id) fun _ _ => trivial).bind fun st also => ?_
      exact .pure (mirrored.append also)
  cases e with
  | read source => exact read source 0
  | readFrom source start => exact read source start
  | chain =>
    refine .ofExcept ?_
    rw [Draft.chain]
    cases chains : d.statement.chain with
    | error fault => exact .error trivial
    | ok chained =>
      obtain ⟨_, rfl⟩ := Statement.chain_ok chains
      exact .ok (mirrored.push _)

/-- What one edit preserves, whether it fails or not. -/
theorem mirrored_edit {d : Draft} (mirrored : d.statement.Mirrored) (e : Edit) (store : Store) :
    (d.edit e store).2.1.statement.Mirrored := by
  have ensured := ensures_apply mirrored e store
  rw [edit]
  split
  · rename_i done
    exact ensured.result (congrArg Prod.fst done)
  · exact mirrored

/-- The draft after edits, each in the store it has found. -/
def editAll (d : Draft) (edits : List (Edit × Store)) : Draft :=
  edits.foldl (fun d (e, store) => (d.edit e store).2.1) d

/-- What all edits preserve. -/
theorem mirrored_editAll (edits : List (Edit × Store)) {d : Draft}
    (mirrored : d.statement.Mirrored) : (d.editAll edits).statement.Mirrored := by
  induction edits generalizing d with
  | nil => exact mirrored
  | cons first rest ih => exact ih (mirrored_edit mirrored first.1 first.2)

theorem edit_of_error {d : Draft} {e : Edit} {store : Store} {fault : Fault}
    (failed : (d.edit e store).1 = .error fault) : (d.edit e store).2.1 = d := by
  unfold edit at failed ⊢
  split at failed
  · cases failed
  · rfl

end Draft

/-! ## Levels of brackets -/

/-- The scanner comes from one state to another, step after step. -/
inductive Scanner.Reaches (setting : Setting) : Scanner × Store → Scanner × Store → Prop where
  | refl (state : Scanner × Store) : Reaches setting state state
  | step {s next : Scanner} {store between : Store} {last : Scanner × Store}
      (stepped : s.step setting store = (.ok (.more next), between))
      (later : Reaches setting (next, between) last) : Reaches setting (s, store) last

namespace Scanner

theorem run_of_step {setting : Setting} {s next : Scanner} {store after : Store}
    (stepped : s.step setting store = (.ok (.more next), after)) :
    s.run setting store = next.run setting after := by
  rw [run_eq]
  exact Action.bind_of_ok stepped

/-- From every state on the way the line is read to the same end. -/
theorem Reaches.run_eq {setting : Setting} {first last : Scanner × Store}
    (reaches : Reaches setting first last) :
    first.1.run setting first.2 = last.1.run setting last.2 := by
  induction reaches with
  | refl state => rfl
  | step stepped _ ih => exact (run_of_step stepped).trans ih

theorem Mirrored.step {setting : Setting} {s next : Scanner} {store after : Store}
    (mirrored : s.Mirrored) (stepped : s.step setting store = (.ok (.more next), after)) :
    next.Mirrored := by
  have came := ensures_step setting mirrored.row store
  rcases came.result (congrArg Prod.fst stepped) with went | ⟨_, finished⟩
  · cases went with
    | more moved => exact mirrored.moves moved
  · cases finished

theorem Mirrored.reaches {setting : Setting} {first last : Scanner × Store}
    (mirrored : first.1.Mirrored) (reaches : Reaches setting first last) : last.1.Mirrored := by
  induction reaches with
  | refl state => exact mirrored
  | step stepped _ ih => exact ih (mirrored.step stepped)

end Scanner

/-! ## Lines -/

/-- A line fails with an ordinary fault, or at the limit on nesting. -/
theorem ensures_interpret (options : Options) (home : ScopeId) (line : String) :
    (interpret options home line).Ensures (fun _ => True) fun fault =>
      fault.Ordinary ∨ fault = .tooDeep options.maxDepth := by
  rw [interpret_eq]
  refine (ensures_scan _ _).bind fun st mirrored => ?_
  exact mirrored.proper_evaluate.mono (fun _ => id) fun _ => .inl

/-- Operators are mirrored everywhere.  On a draft, after any edits, whether they failed or not and
in whatever stores, the operators listed are those among the tokens, and an edit that fails leaves
the draft as it was.  While a text is read, the same holds of the row of every level of brackets at
every step, so of each statement that is evaluated when a bracket closes.  Hence no line fails with
the codes of a start before the text, of a separator that cannot be added, or of a missing
operator. -/
theorem operators_mirrored (home : ScopeId) (maxDepth : Nat)
    (edits : List (Draft.Edit × Store)) :
    let draft := (Draft.new home maxDepth).editAll edits
    draft.statement.Mirrored ∧
    (∀ (e : Draft.Edit) (store : Store) (fault : Fault),
      (draft.edit e store).1 = .error fault → (draft.edit e store).2.1 = draft) ∧
    (∀ (setting : Setting) (cursor : Cursor) (s : Scanner) (start present : Store),
      Scanner.Reaches setting (⟨cursor, .empty, []⟩, start) (s, present) →
        s.statement.Mirrored ∧ ∀ level ∈ s.levels, level.suspended.statement.Mirrored) ∧
    ∀ (options : Options) (scope : ScopeId) (line : String) (store : Store) (fault : Fault),
      (interpret options scope line store).1 = .error fault →
        fault.code.number ∉ [100, 120, 130, 140, 200] := by
  intro draft
  refine ⟨Draft.mirrored_editAll edits Statement.mirrored_empty,
    fun e store fault => Draft.edit_of_error, ?_, ?_⟩
  · intro setting cursor s start present reaches
    have mirrored := (Scanner.mirrored_start cursor).reaches reaches
    exact ⟨mirrored.row.statement, fun level member => (mirrored.levels level member).statement⟩
  · intro options scope line store fault failed
    have ensured := ensures_interpret options scope line store
    rcases ensured.fault failed with ordinary | rfl
    · rw [Fault.ordinary_iff] at ordinary
      simp only [List.mem_cons, List.not_mem_nil, or_false] at ordinary ⊢
      omega
    · simp [Fault.code]

end Scriptlet
