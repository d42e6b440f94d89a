import Scriptlet.Proofs.Reference
set_option autoImplicit false

/-!
# Statements with a separator between them

Two statements that are chained into one do not run one after the other.  The comparisons of the
second are computed before the first one declares anything, and the values of the first are read
after the second has declared.  So the whole gives what the two give in turn exactly if the second
computes the same in the older store, and the first reads the same in the later one.
-/

namespace Scriptlet

namespace Joined

variable {kind : Operator → Bool} {α β : Type}

/-- Things that are joined, followed by further ones. -/
def append (x : Joined kind α) (op : OperatorOf kind) (y : Joined kind α) : Joined kind α :=
  ⟨x.head, x.tail ++ (op, y.head) :: y.tail⟩

theorem tokens_append (row : α → List Token) (x y : Joined kind α) (op : OperatorOf kind) :
    (x.append op y).tokens row = x.tokens row ++ .operator op.val :: y.tokens row := by
  simp [append, tokens]

theorem parts_append (x y : Joined kind α) (op : OperatorOf kind) :
    (x.append op y).parts = x.parts ++ y.parts := by
  simp [append, parts]

theorem mapM_append {m : Type → Type} [Monad m] [LawfulMonad m] (f : α → m β)
    (x y : Joined kind α) (op : OperatorOf kind) :
    (x.append op y).mapM f = do
      let a ← x.mapM f
      let b ← y.mapM f
      return a.append op b := by
  obtain ⟨a, rest⟩ := x
  induction rest generalizing a with
  | nil =>
    rw [append, List.nil_append, mapM_cons]
    simp [mapM, append]
  | cons link rest ih =>
    have later := ih link.2
    rw [append] at later
    rw [append, List.cons_append, mapM_cons, mapM_cons, later]
    simp [append]

end Joined

/-! ## The phases of two streams -/

theorem Stream.settle_append (store : Store) (x y : Stream) (op : OperatorOf Operator.isSeparator) :
    Stream.settle store (Joined.append x op y) = do
      let a ← x.settle store
      let b ← y.settle store
      return Joined.append a op b :=
  Joined.mapM_append _ x y op

theorem Settled.run_append (x y : Settled) (op : OperatorOf Operator.isSeparator) :
    Settled.run (Joined.append x op y) = do
      let a ← x.run
      let b ← y.run
      return a ++ b := by
  rw [Settled.run, Joined.parts_append, List.mapM_append]
  rfl

theorem readAll_append (first second : List Operand) (store : Store) :
    readAll (first ++ second) store = do
      let a ← readAll first store
      let b ← readAll second store
      return a ++ b := by
  rw [readAll, List.mapM_append]
  rfl

theorem length_readAll {targets : List Operand} {store : Store} {values : List Value}
    (read : readAll targets store = .ok values) : values.length = targets.length := by
  induction targets generalizing values with
  | nil =>
    cases read
    rfl
  | cons x rest ih =>
    rw [readAll, List.mapM_cons] at read
    obtain ⟨v, _, read⟩ := except_bind_ok read
    obtain ⟨others, later, read⟩ := except_bind_ok read
    cases read
    rw [List.length_cons, List.length_cons, ih later]

/-- Evaluates a stream whose comparisons are computed in an older store. -/
def Stream.evaluateFrom (s : Stream) (older : Store) : Action (List Value) := do
  let segments ← Action.ofExcept (s.settle older)
  let targets ← Settled.run segments
  Action.ask (readAll targets)

theorem ask_ok {α : Type} {read : Store → Except Fault α} {store after : Store} {a : α}
    (done : Action.ask read store = (.ok a, after)) : read store = .ok a ∧ after = store := by
  rw [Action.ask_apply] at done
  injection done with read same
  exact ⟨read, same.symm⟩

theorem Stream.targets_ok {s : Stream} {store after : Store} {targets : List Operand}
    (done : s.targets store = (.ok targets, after)) :
    ∃ x, s.settle store = .ok x ∧ x.run store = (.ok targets, after) := by
  obtain ⟨x, between, asked, ran⟩ := Action.bind_ok done
  obtain ⟨settled, rfl⟩ := ask_ok asked
  exact ⟨x, settled, ran⟩

theorem Stream.evaluate_ok {s : Stream} {store after : Store} {values : List Value}
    (done : s.evaluate store = (.ok values, after)) :
    ∃ targets, s.targets store = (.ok targets, after) ∧ readAll targets after = .ok values := by
  obtain ⟨targets, between, reached, asked⟩ := Action.bind_ok done
  obtain ⟨read, rfl⟩ := ask_ok asked
  exact ⟨targets, reached, read⟩

theorem Stream.evaluateFrom_ok {s : Stream} {older store after : Store} {values : List Value}
    (done : s.evaluateFrom older store = (.ok values, after)) :
    ∃ x targets, s.settle older = .ok x ∧ x.run store = (.ok targets, after) ∧
      readAll targets after = .ok values := by
  obtain ⟨x, between, settled, rest⟩ := Action.bind_ok done
  injection settled with settled same
  subst same
  obtain ⟨targets, between, ran, asked⟩ := Action.bind_ok rest
  obtain ⟨read, rfl⟩ := ask_ok asked
  exact ⟨x, targets, settled, ran, read⟩

/-- Two streams in one have the values of both exactly if the second one has its values when it
computes in the store at the start, and the targets of the first one hold its values at the end. -/
theorem Stream.evaluate_append_iff {x y : Stream} (op : OperatorOf Operator.isSeparator)
    {start middle final : Store} {firsts seconds : List Value}
    (first : x.evaluate start = (.ok firsts, middle)) :
    Stream.evaluate (Joined.append x op y) start = (.ok (firsts ++ seconds), final) ↔
      y.evaluateFrom start middle = (.ok seconds, final) ∧
      ∃ targets, x.targets start = (.ok targets, middle) ∧
        readAll targets final = .ok firsts := by
  obtain ⟨targets, reached, read⟩ := evaluate_ok first
  obtain ⟨segments, settled, ran⟩ := targets_ok reached
  constructor
  · intro whole
    -- Each phase of the whole is that phase of the first stream, then of the second one.
    obtain ⟨_, reachedBoth, readBoth⟩ := evaluate_ok whole
    obtain ⟨_, settledBoth, ranBoth⟩ := targets_ok reachedBoth
    rw [settle_append, settled] at settledBoth
    obtain ⟨_, same, settledBoth⟩ := except_bind_ok settledBoth
    cases same
    obtain ⟨others, settledOthers, settledBoth⟩ := except_bind_ok settledBoth
    cases settledBoth
    rw [Settled.run_append, Action.bind_of_ok ran] at ranBoth
    obtain ⟨otherTargets, _, ranOthers, ranBoth⟩ := Action.bind_ok ranBoth
    cases ranBoth
    rw [readAll_append] at readBoth
    obtain ⟨firsts', readFirsts, readBoth⟩ := except_bind_ok readBoth
    obtain ⟨seconds', readSeconds, readBoth⟩ := except_bind_ok readBoth
    injection readBoth with joined
    have lengths : firsts'.length = firsts.length := by
      rw [length_readAll readFirsts, length_readAll read]
    obtain ⟨rfl, rfl⟩ := List.append_inj joined lengths
    refine ⟨?_, targets, reached, readFirsts⟩
    have start : Action.ofExcept (y.settle start) middle = (.ok others, middle) := by
      rw [Action.ofExcept_apply, settledOthers]
    rw [evaluateFrom, Action.bind_of_ok start, Action.bind_of_ok ranOthers, Action.ask_apply,
      readSeconds]
  · rintro ⟨late, again, reachedAgain, readAgain⟩
    rw [reached] at reachedAgain
    cases reachedAgain
    obtain ⟨others, otherTargets, settledOthers, ranOthers, readOthers⟩ := evaluateFrom_ok late
    have settledBoth : Stream.settle start (Joined.append x op y) =
        .ok (Joined.append segments op others) := by
      rw [settle_append, settled, settledOthers]
      rfl
    have ranBoth : Settled.run (Joined.append segments op others) start =
        (.ok (targets ++ otherTargets), final) := by
      rw [Settled.run_append, Action.bind_of_ok ran, Action.bind_of_ok ranOthers]
      rfl
    rw [Stream.evaluate, Action.bind_of_ok ((targets_of_settled settledBoth).trans ranBoth),
      Action.ask_apply, readAll_append, readAgain, readOthers]
    rfl

/-! ## Chained statements -/

/-- A statement that can be chained has a token. -/
theorem Statement.chain_ok {st chained : Statement} (chains : st.chain = .ok chained) :
    st.tokens ≠ [] ∧ chained = st.push (.operator .separator) := by
  rw [chain] at chains
  split at chains
  · cases chains
  · rename_i nonempty
    refine ⟨by simpa using nonempty, ?_⟩
    split at chains
    · cases chains
    · split at chains
      · cases chains
      · injection chains with same
        exact same.symm

/-- A statement with values that is not empty is a stream with those values. -/
theorem exists_stream_of_evaluate {st : Statement} (mirrored : st.Mirrored)
    (nonempty : st.tokens ≠ []) {store after : Store} {values : List Value}
    (done : st.evaluate store = (.ok values, after)) :
    ∃ s : Stream, s.tokens = st.tokens ∧ s.evaluate store = (.ok values, after) := by
  rcases grammatical_of_evaluate mirrored done with ⟨empty, _⟩ | ⟨grammatical, _⟩
  · exact absurd empty nonempty
  · obtain ⟨s, hs⟩ := grammatical.exists_stream
    refine ⟨s, hs, ?_⟩
    rw [mirrored.eq_ofTokens, ← hs] at done
    exact Stream.evaluate_ok_iff.mp done

/-- A statement that is chained and followed by another one gives what the two give in turn exactly
if the second one, computing in the store at the start, still does what it does after the first one,
and the targets of the first one hold the same after both as after the first one alone. -/
theorem evaluate_chained_iff {first second chained : Statement} {start middle final : Store}
    {firsts seconds : List Value} (mirroredFirst : first.Mirrored)
    (mirroredSecond : second.Mirrored) (nonempty : second.tokens ≠ [])
    (chains : first.chain = .ok chained) (before : first.evaluate start = (.ok firsts, middle))
    (after : second.evaluate middle = (.ok seconds, final)) :
    ∃ x y : Stream, x.tokens = first.tokens ∧ y.tokens = second.tokens ∧
      ((chained.append second).evaluate start = (.ok (firsts ++ seconds), final) ↔
        y.evaluateFrom start middle = y.evaluate middle ∧
        ∃ targets, x.targets start = (.ok targets, middle) ∧
          readAll targets final = readAll targets middle) := by
  obtain ⟨some_token, rfl⟩ := Statement.chain_ok chains
  obtain ⟨x, hx, firstly⟩ := exists_stream_of_evaluate mirroredFirst some_token before
  obtain ⟨y, hy, secondly⟩ := exists_stream_of_evaluate mirroredSecond nonempty after
  refine ⟨x, y, hx, hy, ?_⟩
  have row : (first.push (.operator .separator)).append second =
      Statement.ofTokens (Stream.tokens (Joined.append x ⟨.separator, rfl⟩ y)) := by
    rw [Stream.tokens, Joined.tokens_append, ← Stream.tokens, ← Stream.tokens, hx, hy,
      mirroredFirst.eq_ofTokens, mirroredSecond.eq_ofTokens]
    simp [Statement.ofTokens, Statement.push, Statement.append, Token.operator?]
  rw [row, Stream.evaluate_ok_iff, Stream.evaluate_append_iff _ firstly, secondly]
  obtain ⟨targets, reached, read⟩ := Stream.evaluate_ok firstly
  refine and_congr_right fun _ => ⟨?_, ?_⟩
  · rintro ⟨again, reachedAgain, readAgain⟩
    rw [reached] at reachedAgain
    cases reachedAgain
    exact ⟨targets, reached, readAgain.trans read.symm⟩
  · rintro ⟨again, reachedAgain, readAgain⟩
    rw [reached] at reachedAgain
    cases reachedAgain
    exact ⟨targets, reached, readAgain.trans read⟩

/-- The declarations `a = true` and `b = true` can be chained. -/
theorem evaluate_chained_iff_other_names :
    let start := (Store.empty.newInstance [("a", .bool false), ("b", .bool false)]).2
    let middle := (Store.empty.newInstance [("a", .bool true), ("b", .bool false)]).2
    let final := (Store.empty.newInstance [("a", .bool true), ("b", .bool true)]).2
    let first := Statement.ofTokens
      [.label ⟨⟨0⟩, "a"⟩, .operator .declare, .value (.bool true)]
    let second := Statement.ofTokens
      [.label ⟨⟨0⟩, "b"⟩, .operator .declare, .value (.bool true)]
    first.evaluate start = (.ok [.bool true], middle) ∧
    second.evaluate middle = (.ok [.bool true], final) ∧
    ∃ x y : Stream, x.tokens = first.tokens ∧ y.tokens = second.tokens ∧
      (((first.push (.operator .separator)).append second).evaluate start =
          (.ok [.bool true, .bool true], final) ↔
        y.evaluateFrom start middle = y.evaluate middle ∧
        ∃ targets, x.targets start = (.ok targets, middle) ∧
          readAll targets final = readAll targets middle) := by
  intro start middle final first second
  have before : first.evaluate start = (.ok [.bool true], middle) := by cbv
  have after : second.evaluate middle = (.ok [.bool true], final) := by cbv
  refine ⟨before, after, ?_⟩
  exact evaluate_chained_iff (Statement.mirrored_ofTokens _) (Statement.mirrored_ofTokens _)
    (by simp [Statement.ofTokens]) (by rfl) before after

/-- Chained statements are not independent: in a store where `a` is false, `a = true` and
`a == true` are true one after the other, but `a = true, a == true` gives true and false. -/
theorem chained_not_independent :
    ¬ ∀ (first second chained : Statement) (start middle final : Store)
        (firsts seconds : List Value),
      first.Mirrored → second.Mirrored → second.tokens ≠ [] → first.chain = .ok chained →
      first.evaluate start = (.ok firsts, middle) →
      second.evaluate middle = (.ok seconds, final) →
      (chained.append second).evaluate start = (.ok (firsts ++ seconds), final) := by
  intro independent
  let start := (Store.empty.newInstance [("a", .bool false)]).2
  let middle := (Store.empty.newInstance [("a", .bool true)]).2
  let first := Statement.ofTokens [.label ⟨⟨0⟩, "a"⟩, .operator .declare, .value (.bool true)]
  let second := Statement.ofTokens [.label ⟨⟨0⟩, "a"⟩, .operator .equal, .value (.bool true)]
  have before : first.evaluate start = (.ok [.bool true], middle) := by cbv
  have after : second.evaluate middle = (.ok [.bool true], middle) := by cbv
  have whole : ((first.push (.operator .separator)).append second).evaluate start =
      (.ok [.bool true, .bool false], middle) := by cbv
  have claimed := independent first second (first.push (.operator .separator)) start middle middle
    [.bool true] [.bool true] (Statement.mirrored_ofTokens _) (Statement.mirrored_ofTokens _)
    (by simp [second, Statement.ofTokens]) (by rfl) before after
  rw [whole] at claimed
  simp at claimed

end Scriptlet
