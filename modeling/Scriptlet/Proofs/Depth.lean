import Scriptlet.Proofs.Moves
set_option autoImplicit false

/-!
# The limit on nesting

The limit on nesting is a guard and nothing else.  A line that does not come to the limit has the
same answer, leaves the same store and prints the same under every higher limit.  And a limit that
allows for all opening brackets of the line is never come to: a level is opened only behind one of
them, and no bracket opens two.
-/

namespace Scriptlet

/-! ## The same up to the limit -/

/-- The first step does what the second does, unless it fails at the limit. -/
def Action.SameUpTo {α : Type} (limit : Nat) (a b : Action α) : Prop :=
  ∀ store, a store = b store ∨ (a store).1 = .error (.tooDeep limit)

namespace Action.SameUpTo

variable {α β : Type} {limit : Nat} {a b : Action α}

theorem refl (limit : Nat) (a : Action α) : a.SameUpTo limit a := fun _ => .inl rfl

theorem ask {read other : Store → Except Fault α}
    (same : ∀ store, read store = other store ∨ read store = .error (.tooDeep limit)) :
    (Action.ask read).SameUpTo limit (Action.ask other) := by
  intro store
  rcases same store with equal | deep
  · exact .inl (congrArg (·, store) equal)
  · exact .inr deep

theorem ofExcept {x y : Except Fault α} (same : x = y ∨ x = .error (.tooDeep limit)) :
    (Action.ofExcept x).SameUpTo limit (Action.ofExcept y) :=
  ask fun _ => same

/-- One step after the other, where the second depends on a result that the first really has. -/
theorem bind {f g : α → Action β} (first : a.SameUpTo limit b)
    (next : ∀ x store after, a store = (.ok x, after) → (f x).SameUpTo limit (g x)) :
    (a >>= f).SameUpTo limit (b >>= g) := by
  intro store
  have same := first store
  cases done : a store with
  | mk result between =>
    rw [done] at same
    cases result with
    | error fault =>
      rw [Action.bind_of_error done]
      rcases same with equal | deep
      · rw [Action.bind_of_error equal.symm]
        exact .inl rfl
      · cases deep
        exact .inr rfl
    | ok x =>
      rcases same with equal | deep
      · rw [Action.bind_of_ok done, Action.bind_of_ok equal.symm]
        exact next x store between done between
      · cases deep

end Action.SameUpTo

/-! ## One step -/

namespace Scanner

variable {limit deeper : Nat} (within : limit ≤ deeper) (home : ScopeId) (s : Scanner)
include within

theorem sameUpTo_enter (opening : Opening) (cursor : Cursor) :
    s.enter ⟨home, limit⟩ opening cursor = s.enter ⟨home, deeper⟩ opening cursor ∨
      s.enter ⟨home, limit⟩ opening cursor = .error (.tooDeep limit) := by
  rw [enter, enter]
  by_cases deep : limit < s.levels.length + 1
  · exact .inr (if_pos deep)
  · have higher : ¬ deeper < s.levels.length + 1 := by omega
    rw [if_neg deep, if_neg higher]
    exact .inl rfl

theorem sameUpTo_name : (s.name ⟨home, limit⟩).SameUpTo limit (s.name ⟨home, deeper⟩) := by
  refine .ask fun store => ?_
  cases readName store home s.cursor with
  | error fault => exact .inl rfl
  | ok read =>
    obtain ⟨label, cursor⟩ := read
    by_cases here : cursor.ahead.head? = some '('
    · simp only [if_pos here]
      cases label.resolve store with
      | error fault => exact .inl rfl
      | ok value =>
        cases value with
        | routine routine => exact sameUpTo_enter within home s (.call routine) (cursor.advance 1)
        | _ => exact .inl rfl
    · exact .inl (by simp only [if_neg here])

theorem sameUpTo_afterGate (result : Value) :
    s.afterGate ⟨home, limit⟩ result = s.afterGate ⟨home, deeper⟩ result ∨
      s.afterGate ⟨home, limit⟩ result = .error (.tooDeep limit) := by
  unfold afterGate
  simp only
  split
  · cases result.asBool with
    | error fault => exact .inl rfl
    | ok isOpen =>
      cases isOpen with
      | true => exact sameUpTo_enter within home s .block _
      | false => exact .inl rfl
  · exact .inl rfl

theorem sameUpTo_resume (opening : Opening) (values : List Value) :
    (s.resume ⟨home, limit⟩ opening values).SameUpTo limit
      (s.resume ⟨home, deeper⟩ opening values) := by
  cases opening with
  | group pos => exact .refl limit _
  | array => exact .refl limit _
  | block => exact .refl limit _
  | call routine =>
    refine .bind (.refl limit _) fun result _ _ _ => ?_
    by_cases gate : routine.isGate = true
    · simp only [if_pos gate]
      exact .ofExcept (sameUpTo_afterGate within home s result)
    · simp only [if_neg gate]
      exact .refl limit _

theorem sameUpTo_close (c : Char) :
    (s.close ⟨home, limit⟩ c).SameUpTo limit (s.close ⟨home, deeper⟩ c) := by
  unfold close
  cases s.levels with
  | nil => exact .refl limit _
  | cons level outer =>
    by_cases closes : c = level.opening.closer
    · simp only [if_pos closes]
      exact .bind (.refl limit _) fun values _ _ _ => sameUpTo_resume within home _ _ values
    · simp only [if_neg closes]
      exact .refl limit _

theorem sameUpTo_symbol (c : Char) (rest : List Char) :
    (s.symbol ⟨home, limit⟩ c rest).SameUpTo limit (s.symbol ⟨home, deeper⟩ c rest) := by
  unfold symbol
  cases operatorAt? c rest with
  | some found => exact .refl limit _
  | none =>
    simp only
    split
    · exact .refl limit _
    split
    · exact .ofExcept (sameUpTo_enter within home s _ _)
    split
    · exact .ofExcept (sameUpTo_enter within home s _ _)
    split
    · exact .refl limit _
    split
    · exact sameUpTo_close within home s c
    · exact .refl limit _

/-- A step depends on the limit only in that it may fail there. -/
theorem sameUpTo_step : (s.step ⟨home, limit⟩).SameUpTo limit (s.step ⟨home, deeper⟩) := by
  unfold step
  cases s.cursor.ahead with
  | nil => exact .refl limit _
  | cons c rest =>
    simp only
    split
    · exact .refl limit _
    split
    · exact .refl limit _
    split
    · exact sameUpTo_name within home s
    · exact sameUpTo_symbol within home s c rest

/-- So does a run, by induction on the characters ahead. -/
theorem sameUpTo_run :
    Action.SameUpTo limit (s.run ⟨home, limit⟩) (s.run ⟨home, deeper⟩) := by
  induction length : s.cursor.ahead.length using Nat.strongRecOn generalizing s with
  | ind _ ih =>
    rw [run_eq, run_eq]
    refine .bind (sameUpTo_step within home s) fun progress store after stepped => ?_
    cases progress with
    | done statement => exact .refl limit _
    | more next =>
      have shorter := step_shorter stepped
      exact ih _ (by omega) next rfl

end Scanner

/-! ## Levels enough -/

namespace Scanner

/-- Reading on at the same level needs no more room. -/
theorem Room.further {s next : Scanner} {limit : Nat} (room : s.Room limit)
    (levels : next.levels = s.levels) (ahead : next.cursor.ahead <:+ s.cursor.ahead) :
    next.Room limit := by
  have fewer := openings_le_of_suffix ahead
  unfold Room at room ⊢
  rw [levels]
  omega

/-- A move uses up the brackets it opens. -/
theorem Room.moves {s next : Scanner} {limit : Nat} (room : s.Room limit)
    (moves : s.Moves limit next) : next.Room limit := by
  induction moves with
  | skip ahead => exact room.further rfl ahead
  | add token ahead => exact room.further rfl ahead
  | replace v _ _ ahead => exact room.further rfl ahead
  | enter opening bracket ahead _ =>
    have fewer := openings_lt_of_suffix bracket ahead
    unfold Room at room ⊢
    simp only [List.length_cons]
    omega
  | close levels _ ih => exact ih (room.closed levels)

/-- Where there are levels enough, a text is read without coming to the limit. -/
theorem Room.ensures_run {s : Scanner} {setting : Setting} (mirrored : s.Mirrored)
    (room : s.Room setting.maxDepth) :
    Action.Ensures (s.run setting) Statement.Mirrored Fault.Ordinary := by
  refine Scanner.ensures_run (fun room moves => Room.moves room moves) ?_ mirrored room
  rintro s fault room (tokens | ⟨brackets, _⟩ | crowded)
  · exact tokens.ordinary
  · exact brackets.ordinary
  · exact absurd room crowded

end Scanner

/-! ## Lines -/

/-- The limit on nesting is only a guard.  If a line ends otherwise than at the limit, then under
every higher limit it has the same values or the same fault, leaves the same store and so has
printed the same.  Under a limit that is not below the number of opening brackets in the line, it
never ends at the limit. -/
theorem interpret_eq_of_deeper (options : Options) (home : ScopeId) (line : String)
    (store : Store) {limit deeper : Nat} (within : limit ≤ deeper) :
    ((∀ fault, (interpret { options with maxDepth := limit } home line store).1 = .error fault →
        fault.code.number ≠ 195) →
      interpret { options with maxDepth := deeper } home line store =
        interpret { options with maxDepth := limit } home line store) ∧
    (openings line.toList ≤ limit →
      ∀ fault, (interpret { options with maxDepth := limit } home line store).1 = .error fault →
        fault.code.number ≠ 195) := by
  constructor
  · intro shallow
    have same : (interpret { options with maxDepth := limit } home line).SameUpTo limit
        (interpret { options with maxDepth := deeper } home line) := by
      rw [interpret_eq, interpret_eq]
      exact .bind (Scanner.sameUpTo_run within home _) fun st _ _ _ => .refl limit _
    rcases same store with equal | deep
    · exact equal.symm
    · exact absurd rfl (shallow _ deep)
  · intro enough fault failed
    have room : Scanner.Room ⟨.ofText line.toList 0, .empty, []⟩ limit := by
      simpa [Scanner.Room, Cursor.ofText] using enough
    have ensured : (interpret { options with maxDepth := limit } home line).Ensures
        (fun _ => True) Fault.Ordinary := by
      rw [interpret_eq]
      refine (Scanner.Room.ensures_run (Scanner.mirrored_start _) room).bind fun st mirrored => ?_
      exact mirrored.proper_evaluate
    have code := (Fault.ordinary_iff fault).mp ((ensured store).fault failed)
    simp only [List.mem_cons, List.not_mem_nil, or_false] at code
    omega

/-- Two brackets need a limit of two; with it the line has the value that it has with any other. -/
theorem interpret_eq_of_deeper_brackets :
    2 ≤ 64 ∧ openings "[['a']]".toList = 2 ∧
    (interpret { maxDepth := 1 } ⟨0⟩ "[['a']]" Store.empty).1 = .error (.tooDeep 1) ∧
    (interpret { maxDepth := 64 } ⟨0⟩ "[['a']]" Store.empty).1.toOption =
      some [.array [.array [.string "a"]]] := by
  have guarded := interpret_eq_of_deeper {} ⟨0⟩ "[['a']]" Store.empty (show 2 ≤ 64 by decide)
  have brackets : openings "[['a']]".toList = 2 := by cbv
  have same := guarded.1 (guarded.2 (Nat.le_of_eq brackets))
  refine ⟨by decide, brackets, by cbv, ?_⟩
  rw [same]
  cbv

end Scriptlet
