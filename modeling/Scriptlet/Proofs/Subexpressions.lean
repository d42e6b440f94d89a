import Scriptlet.Proofs.Placement
set_option autoImplicit false

/-!
# Sub-expressions

A text that is a line of its own can also stand in brackets, in an array, in a call and in the block
of an open gate.  There it is read and evaluated as it would be alone, with the same effects, and
its values become the value of the whole.
-/

namespace Scriptlet

/-! ## Where a name starts -/

/-- Two sets of characters without a character in common, by their ranges. -/
def CodePoints.apart (a b : CodePoints) : Bool :=
  a.ranges.all fun r => b.ranges.all fun q => r.2 < q.1 || q.2 < r.1

theorem CodePoints.contains_of_apart {a b : CodePoints} (apart : a.apart b = true) {c : Char}
    (member : a.contains c = true) : b.contains c = false := by
  obtain ⟨r, listed, within⟩ := List.any_eq_true.mp member
  have others := List.all_eq_true.mp (List.all_eq_true.mp apart r listed)
  rw [contains, List.any_eq_false]
  intro q found
  have away := others q found
  simp only [Bool.and_eq_true, Bool.or_eq_true, decide_eq_true_eq] at within away ⊢
  omega

theorem alphabetic_apart_blank : alphabeticSet.apart blankSet = true := by decide +kernel

theorem nameStart_ascii : ∀ n < 128, isNameStart (Char.ofNat n) = true →
    isBlank (Char.ofNat n) = false ∧ isNumberChar (Char.ofNat n) = false := by decide +kernel

/-- What a name starts with is neither a blank nor part of a number. -/
theorem apart_of_isNameStart {c : Char} (start : isNameStart c = true) :
    isBlank c = false ∧ isNumberChar c = false := by
  -- Within ASCII there are few characters; beyond it, the tables have no range in common.
  by_cases ascii : c.toNat < 128
  · rw [← Char.ofNat_toNat c] at start ⊢
    exact nameStart_ascii c.toNat ascii start
  · have other (d : Char) (low : d.toNat < 128) : c ≠ d := fun same => ascii (same ▸ low)
    have letter : alphabeticSet.contains c = true := by
      simpa [isNameStart, isAlphabetic, ascii, other '_' (by decide)] using start
    have digit : c.isDigit = false := by
      refine Bool.eq_false_iff.mpr fun digit => ascii ?_
      have bounds := (Bool.and_eq_true_iff.mp digit).2
      exact Nat.lt_of_le_of_lt (UInt32.le_iff_toNat_le.mp (of_decide_eq_true bounds)) (by decide)
    refine ⟨?_, ?_⟩
    · rw [isBlank, if_neg ascii]
      exact CodePoints.contains_of_apart alphabetic_apart_blank letter
    · simp [isNumberChar, digit, other '.' (by decide)]

/-- Where a name starts, the scanner reads it. -/
theorem Scanner.step_of_isNameStart {s : Scanner} {c : Char} {rest : List Char}
    (ahead : s.cursor.ahead = c :: rest) (start : isNameStart c = true) (setting : Setting) :
    s.step setting = s.name setting := by
  obtain ⟨blank, number⟩ := apart_of_isNameStart start
  simp only [step, ahead, blank, number, start, Bool.false_eq_true, if_false, if_true]

/-- The text is a name, dotted or not, that leads from the scope to the label. -/
structure Names (store : Store) (scope : ScopeId) (text : List Char) (label : Label) : Prop where
  start : ∃ c ∈ text.head?, isNameStart c = true
  reads : readName store scope ⟨0, text⟩ = .ok (label, ⟨text.length, []⟩)

/-- Characters of a name are taken one after the other. -/
theorem followName_parts (store : Store) (scope : ScopeId) {chars : List Char}
    (parts : ∀ c ∈ chars, isNamePart c = true) (behind : List Char) (name : String) (pos : Nat) :
    followName store scope name pos (chars ++ behind) =
      followName store scope (name ++ String.ofList chars) (pos + chars.length) behind := by
  induction chars generalizing name pos with
  | nil => simp
  | cons c rest ih =>
    obtain ⟨part, later⟩ := List.forall_mem_cons.mp parts
    have joined : name.push c ++ String.ofList rest = name ++ String.ofList (c :: rest) :=
      String.toList_inj.mp (by simp)
    rw [List.cons_append, followName, if_pos part, ih later, joined, List.length_cons,
      Nat.add_assoc, Nat.add_comm 1]

theorem followName_of_parts (store : Store) (scope : ScopeId) {chars : List Char}
    (parts : ∀ c ∈ chars, isNamePart c = true) (name : String) (pos : Nat) :
    followName store scope name pos chars =
      .ok (⟨scope, name ++ String.ofList chars⟩, ⟨pos + chars.length, []⟩) := by
  have taken := followName_parts store scope parts [] name pos
  rwa [List.append_nil, followName] at taken

/-- An identifier names itself in the scope. -/
theorem names_identifier (store : Store) (scope : ScopeId) {c : Char} {rest : List Char}
    (start : isNameStart c = true) (parts : ∀ d ∈ rest, isNamePart d = true) :
    Names store scope (c :: rest) ⟨scope, String.ofList (c :: rest)⟩ := by
  refine ⟨⟨c, rfl, start⟩, ?_⟩
  have all : ∀ d ∈ c :: rest, isNamePart d = true :=
    List.forall_mem_cons.mpr ⟨isNamePart_of_isNameStart start, parts⟩
  rw [readName, followName_of_parts store scope all, String.empty_append, Nat.zero_add]

/-! ## Reading and evaluating on -/

theorem Statement.evaluate_single (v : Value) :
    Statement.evaluate ⟨[.value v], []⟩ = pure [v] := by
  funext store
  rfl

namespace Scanner

/-- The values of the line that the scanner is in. -/
def answer (setting : Setting) (s : Scanner) : Action (List Value) :=
  s.run setting >>= Statement.evaluate

variable {setting : Setting} {s next : Scanner} {store after : Store}

theorem answer_of_step (stepped : s.step setting store = (.ok (.more next), after)) :
    s.answer setting store = next.answer setting after := by
  rw [answer, run_eq, bind_assoc]
  exact Action.bind_of_ok stepped

theorem Reaches.answer_eq {first last : Scanner × Store} (reaches : Reaches setting first last) :
    first.1.answer setting first.2 = last.1.answer setting last.2 := by
  induction reaches with
  | refl state => rfl
  | step stepped _ ih => exact (answer_of_step stepped).trans ih

/-- At the end of a line that has come to one value. -/
theorem answer_value (setting : Setting) (pos : Nat) (v : Value) :
    answer setting ⟨⟨pos, []⟩, Row.empty.push (.value v), []⟩ = pure [v] := by
  rw [answer, run_eq]
  exact Statement.evaluate_single v

end Scanner

theorem interpret_eq_answer (options : Options) (home : ScopeId) (line : String) :
    interpret options home line =
      Scanner.answer ⟨home, options.maxDepth⟩ ⟨⟨0, line.toList⟩, .empty, []⟩ := by
  rw [interpret_eq, Cursor.ofText, Nat.zero_min]
  rfl

/-- What a line gives after its first step. -/
theorem interpret_of_step (options : Options) {home : ScopeId} {depth : Nat} {line : String}
    {text : List Char} {store after : Store} {next : Scanner} (same : line.toList = text)
    (stepped : Scanner.step ⟨home, depth⟩ ⟨⟨0, text⟩, .empty, []⟩ store =
      (.ok (.more next), after)) :
    interpret { options with maxDepth := depth } home line store =
      next.answer ⟨home, depth⟩ after := by
  rw [interpret_eq_answer, same]
  exact Scanner.answer_of_step stepped

/-! ## A level of its own -/

theorem Opening.closer_mem (opening : Opening) : opening.closer ∈ terminators := by
  cases opening <;> simp [Opening.closer, terminators]

/-- A line inside a level that was opened at the start of another: its values are those of the
level when the bracket behind it closes. -/
theorem answer_level {options : Options} {home : ScopeId} {line : String} {store after : Store}
    {depth : Nat} {values : List Value}
    (ran : interpret { options with maxDepth := depth } home line store = (.ok values, after))
    (opening : Opening) (start : Nat) :
    let setting : Setting := ⟨home, depth + 1⟩
    ∃ stop, Scanner.answer setting
        ⟨⟨start, line.toList ++ [opening.closer]⟩, .empty, [⟨opening, .empty⟩]⟩ store =
      (Scanner.resume setting ⟨⟨stop, []⟩, .empty, []⟩ opening values >>= fun progress =>
        progress.finish setting >>= Statement.evaluate) after := by
  intro setting
  rw [interpret_eq] at ran
  obtain ⟨st, between, scanned, evaluated⟩ := Action.bind_ok ran
  -- The line stands behind its opening bracket and in front of its closing one.
  let p : Placement :=
    ⟨start, [opening.closer], [⟨opening, .empty⟩], opening.closer, opening.closer_mem, rfl⟩
  obtain ⟨last, same, levels, ahead, reaches⟩ :=
    p.reaches_behind (Scanner.mirrored_start _) scanned
  have here : last.cursor.ahead.head? = some opening.closer := by rw [ahead]; rfl
  have cursor : last.cursor.advance 1 = ⟨last.cursor.pos + 1, []⟩ := by
    rw [Cursor.advance, ahead]
    rfl
  have placed : p.scanner ⟨.ofText line.toList 0, .empty, []⟩ =
      ⟨⟨start, line.toList ++ [opening.closer]⟩, .empty, [⟨opening, .empty⟩]⟩ := by
    simp [Placement.scanner, Placement.cursor, Cursor.ofText, p]
  have reached : Scanner.answer setting
      ⟨⟨start, line.toList ++ [opening.closer]⟩, .empty, [⟨opening, .empty⟩]⟩ store =
        last.answer setting between := by
    rw [← placed]
    exact reaches.answer_eq
  have closes : last.answer setting = st.evaluate >>= fun values =>
      Scanner.resume setting ⟨⟨last.cursor.pos + 1, []⟩, .empty, []⟩ opening values >>=
        fun progress => progress.finish setting >>= Statement.evaluate := by
    rw [Scanner.answer, Scanner.run_eq, Scanner.step_closer levels here, cursor, same, bind_assoc,
      bind_assoc]
  exact ⟨_, reached.trans ((congrFun closes between).trans (Action.bind_of_ok evaluated))⟩

/-- A level that becomes one value. -/
theorem answer_level_value {options : Options} {home : ScopeId} {line : String}
    {store after : Store} {depth : Nat} {values : List Value}
    (ran : interpret { options with maxDepth := depth } home line store = (.ok values, after))
    (opening : Opening) (v : Value)
    (resumes : ∀ (setting : Setting) (s : Scanner), s.resume setting opening values =
      pure (.more (s.add (.value v) s.cursor))) (start : Nat) :
    Scanner.answer ⟨home, depth + 1⟩
      ⟨⟨start, line.toList ++ [opening.closer]⟩, .empty, [⟨opening, .empty⟩]⟩ store =
        (.ok [v], after) := by
  obtain ⟨stop, same⟩ := answer_level ran opening start
  rw [resumes, pure_bind] at same
  exact same.trans (congrFun (Scanner.answer_value _ stop v) after)

/-- A level that holds the arguments of a call, when no block may follow. -/
theorem answer_level_call {options : Options} {home : ScopeId} {line : String}
    {store after : Store} {depth : Nat} {values : List Value}
    (ran : interpret { options with maxDepth := depth } home line store = (.ok values, after))
    {routine : Routine} (plain : routine.isGate = false) (start : Nat) :
    Scanner.answer ⟨home, depth + 1⟩
      ⟨⟨start, line.toList ++ [')']⟩, .empty, [⟨.call routine, .empty⟩]⟩ store =
        (routine.call home values >>= fun v => pure [v]) after := by
  obtain ⟨stop, same⟩ := answer_level ran (.call routine) start
  refine same.trans ?_
  simp only [Scanner.resume, plain, Bool.false_eq_true, if_false, bind_assoc, pure_bind]
  refine congrFun (congrArg (routine.call home values >>= ·) (funext fun v => ?_)) after
  exact Scanner.answer_value _ stop v

/-! ## What opens a level -/

section

variable (home : ScopeId) (depth : Nat) (rest : List Char)

/-- The first level is opened under every limit above zero. -/
theorem enter_first (place cursor : Cursor) (opening : Opening) :
    Scanner.enter ⟨home, depth + 1⟩ ⟨place, .empty, []⟩ opening cursor =
      .ok (.more ⟨cursor, .empty, [⟨opening, .empty⟩]⟩) :=
  if_neg (Nat.not_lt.mpr (Nat.le_add_left 1 depth))

theorem step_group (store : Store) :
    Scanner.step ⟨home, depth + 1⟩ ⟨⟨0, '(' :: rest⟩, .empty, []⟩ store =
      (.ok (.more ⟨⟨1, rest⟩, .empty, [⟨.group 0, .empty⟩]⟩), store) :=
  congrArg (·, store) (enter_first home depth _ _ _)

theorem step_array (store : Store) :
    Scanner.step ⟨home, depth + 1⟩ ⟨⟨0, '[' :: rest⟩, .empty, []⟩ store =
      (.ok (.more ⟨⟨1, rest⟩, .empty, [⟨.array, .empty⟩]⟩), store) :=
  congrArg (·, store) (enter_first home depth _ _ _)

/-- A name with a bracket behind it is a call of the routine it stands for. -/
theorem step_call {store : Store} {name : List Char} {label : Label} {routine : Routine}
    (names : Names store home name label)
    (resolved : label.resolve store = .ok (.routine routine)) :
    Scanner.step ⟨home, depth + 1⟩ ⟨⟨0, name ++ '(' :: rest⟩, .empty, []⟩ store =
      (.ok (.more ⟨⟨name.length + 1, rest⟩, .empty, [⟨.call routine, .empty⟩]⟩), store) := by
  obtain ⟨c, first, start⟩ := names.start
  obtain ⟨tail, rfl⟩ := List.head?_eq_some_iff.mp first
  have ends : ∀ d, ('(' :: rest).head? = some d → isNamePart d = false ∧ d ≠ '.' := by
    rintro d ⟨⟩
    decide
  have read : readName store home ⟨0, c :: tail ++ '(' :: rest⟩ =
      .ok (label, ⟨(c :: tail).length, '(' :: rest⟩) :=
    followName_append 0 ends names.reads
  rw [Scanner.step_of_isNameStart rfl start, Scanner.name_of_call read rfl resolved]
  exact congrArg (·, store) (enter_first home depth _ _ _)

/-- The bracket that closes an open gate, with a block behind it. -/
theorem step_gate (store : Store) (pos : Nat) {gate : Routine}
    (behaves : gate.behaviour = .builtin .gate) :
    Scanner.step ⟨home, depth + 1⟩
        ⟨⟨pos, ')' :: '\x7b' :: rest⟩, .empty, [⟨.call gate, .empty⟩]⟩ store =
      (.ok (.more ⟨⟨pos + 2, rest⟩, .empty, [⟨.block, .empty⟩]⟩), store) := by
  obtain ⟨id, behaviour⟩ := gate
  subst behaves
  rw [Scanner.step_closer rfl rfl]
  refine congrArg (·, store) ?_
  exact enter_first home depth ⟨pos + 1, '\x7b' :: rest⟩ ⟨pos + 2, rest⟩ .block

end

/-! ## The whole line -/

/-- Sub-expressions are compositional.  If a line gives values, then under a limit on nesting that
is one higher, and from the same store, the same text gives the same in brackets if there is one
value, an array of the values in square brackets and in the block of an open gate, and in all three
the store is left, and so was printed to, as by the line alone.  As the arguments of a routine that
a name stands for, the text has the effects of the line and then those of the call with its
values. -/
theorem subexpressions_compose (options : Options) (home : ScopeId) (line : String)
    (store after : Store) (depth : Nat) (values : List Value)
    (ran : interpret { options with maxDepth := depth } home line store = (.ok values, after)) :
    let deeper := interpret { options with maxDepth := depth + 1 } home
    (∀ v, values = [v] → deeper ("(" ++ line ++ ")") store = (.ok [v], after)) ∧
    deeper ("[" ++ line ++ "]") store = (.ok [.array values], after) ∧
    (∀ (name : String) (label : Label) (routine : Routine), Names store home name.toList label →
      label.resolve store = .ok (.routine routine) → routine.isGate = false →
      deeper (name ++ "(" ++ line ++ ")") store =
        (routine.call home values >>= fun v => pure [v]) after) ∧
    ∀ gate : Routine, store.resolve home "if" = .ok (.routine gate) →
      gate.behaviour = .builtin .gate →
      deeper ("if()\x7b" ++ line ++ "\x7d") store = (.ok [.array values], after) := by
  intro deeper
  refine ⟨?_, ?_, ?_, ?_⟩
  · rintro v rfl
    have text : ("(" ++ line ++ ")").toList = '(' :: (line.toList ++ [')']) := by simp
    refine (interpret_of_step options text (step_group home depth _ store)).trans ?_
    exact answer_level_value ran (.group 0) v (fun _ _ => rfl) 1
  · have text : ("[" ++ line ++ "]").toList = '[' :: (line.toList ++ [']']) := by simp
    refine (interpret_of_step options text (step_array home depth _ store)).trans ?_
    exact answer_level_value ran .array (.array values) (fun _ _ => rfl) 1
  · intro name label routine names resolved plain
    have text : (name ++ "(" ++ line ++ ")").toList =
        name.toList ++ '(' :: (line.toList ++ [')']) := by simp
    refine (interpret_of_step options text (step_call home depth _ names resolved)).trans ?_
    exact answer_level_call ran plain _
  · intro gate resolved behaves
    have start : isNameStart 'i' = true := by decide
    have parts : ∀ d ∈ ['f'], isNamePart d = true := List.forall_mem_singleton.mpr (by decide)
    have names : Names store home "if".toList ⟨home, "if"⟩ :=
      names_identifier store home start parts
    have text : ("if()\x7b" ++ line ++ "\x7d").toList =
        "if".toList ++ '(' :: ')' :: '\x7b' :: (line.toList ++ ['\x7d']) := by simp
    refine (interpret_of_step options text (step_call home depth _ names resolved)).trans ?_
    refine (Scanner.answer_of_step (step_gate home depth _ store 3 behaves)).trans ?_
    exact answer_level_value ran .block (.array values) (fun _ _ => rfl) 5

/-- A declaration of an array: in brackets, in an array, as the argument of a routine with a dotted
name, and in a block. -/
theorem subexpressions_compose_declaration :
    let library : Scope :=
      ⟨none, ⟨[("type", .routine ⟨1, .builtin .typeOf⟩)], by decide⟩, none, false⟩
    let bound : Bindings := ⟨[("if", .routine ⟨0, .builtin .gate⟩), ("m", .scope ⟨1⟩)], by decide⟩
    let store : Store := ⟨#[⟨none, bound, none, false⟩, library], 2, ⟨"", false⟩, #[],
      by decide +zetaReduce⟩
    let after := store.setBindings ⟨0⟩ (bound.insert "x" (.array [.string "a"]))
    let deeper := interpret { maxDepth := 2 } ⟨0⟩
    interpret { maxDepth := 1 } ⟨0⟩ "x = ['a']" store = (.ok [.array [.string "a"]], after) ∧
    deeper "(x = ['a'])" store = (.ok [.array [.string "a"]], after) ∧
    deeper "[x = ['a']]" store = (.ok [.array [.array [.string "a"]]], after) ∧
    Names store ⟨0⟩ "m.type".toList ⟨⟨1⟩, "type"⟩ ∧
    deeper "m.type(x = ['a'])" store = (.ok [.string "array"], after) ∧
    deeper "if()\x7bx = ['a']\x7d" store = (.ok [.array [.array [.string "a"]]], after) := by
  intro library bound store after deeper
  have named : Scanner.step ⟨⟨0⟩, 1⟩ ⟨⟨0, "x = ['a']".toList⟩, .empty, []⟩ store =
      (.ok (.more ⟨⟨1, " = ['a']".toList⟩, ⟨[.label ⟨⟨0⟩, "x"⟩], []⟩, []⟩), store) := rfl
  have answered : Scanner.answer ⟨⟨0⟩, 1⟩
      ⟨⟨1, " = ['a']".toList⟩, ⟨[.label ⟨⟨0⟩, "x"⟩], []⟩, []⟩ store =
        (.ok [.array [.string "a"]], after) := by cbv
  have ran : interpret { maxDepth := 1 } ⟨0⟩ "x = ['a']" store =
      (.ok [.array [.string "a"]], after) := (interpret_of_step {} rfl named).trans answered
  have into : store.stepInto ⟨0⟩ "m" = .ok ⟨1⟩ := by cbv
  have reads : readName store ⟨0⟩ ⟨0, "m.type".toList⟩ = .ok (⟨⟨1⟩, "type"⟩, ⟨6, []⟩) := by
    show followName store ⟨0⟩ "m" 1 ".type".toList = _
    rw [show ".type".toList = '.' :: "type".toList from rfl, followName, if_neg (by decide),
      if_pos rfl, into]
    rfl
  have names : Names store ⟨0⟩ "m.type".toList ⟨⟨1⟩, "type"⟩ := ⟨⟨'m', rfl, by decide⟩, reads⟩
  obtain ⟨group, array, call, block⟩ := subexpressions_compose {} ⟨0⟩ _ store after 1 _ ran
  refine ⟨ran, group _ rfl, array, names, ?_, block ⟨0, .builtin .gate⟩ (by cbv) rfl⟩
  exact call "m.type" _ ⟨1, .builtin .typeOf⟩ names (by cbv) rfl

end Scriptlet
