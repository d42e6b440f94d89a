import Scriptlet.Proofs.Reading
set_option autoImplicit false

/-!
# A block ends in one place

Where a block ends is decided in two ways.  A block that is run ends where the scanner, through all
strings, brackets and inner blocks, comes to the brace that closes its level; a block that is passed
over ends where a count of braces and quotes comes back to zero.  The two agree: between any two
tokens the count stands outside all strings, at the number of blocks that are open.
-/

namespace Scriptlet

/-! ## Crossing a text -/

namespace Passing

/-- The brace that ends the block. -/
def Ends (p : Passing) (c : Char) : Prop := p.quote = none ∧ c = '\x7d' ∧ (p.next c).depth = 0

/-- The block does not end in the text, and the count goes from `p` to `q`. -/
structure Crosses (p : Passing) (text : List Char) (q : Passing) : Prop where
  unended : blockLength? p text = none
  counted : text.foldl next p = q

variable {p q r : Passing} {c : Char} {text more : List Char}

theorem blockLength?_of_ends (ends : p.Ends c) (rest : List Char) :
    blockLength? p (c :: rest) = some 1 :=
  if_pos ends

theorem blockLength?_of_goesOn (goesOn : ¬ p.Ends c) (rest : List Char) :
    blockLength? p (c :: rest) = (blockLength? (p.next c) rest).map (· + 1) :=
  if_neg goesOn

/-- Where the block does not end in a text, it does not end in its first character. -/
theorem goesOn_of_unended {rest : List Char} (unended : blockLength? p (c :: rest) = none) :
    ¬ p.Ends c ∧ blockLength? (p.next c) rest = none := by
  by_cases ends : p.Ends c
  · rw [blockLength?_of_ends ends] at unended
    cases unended
  · rw [blockLength?_of_goesOn ends] at unended
    exact ⟨ends, Option.map_eq_none_iff.mp unended⟩

/-- What lies behind a text that does not end the block is counted on from there. -/
theorem blockLength?_append (unended : blockLength? p text = none) (more : List Char) :
    blockLength? p (text ++ more) =
      (blockLength? (text.foldl next p) more).map (· + text.length) := by
  induction text generalizing p with
  | nil => simp
  | cons c rest ih =>
    obtain ⟨goesOn, later⟩ := goesOn_of_unended unended
    rw [List.cons_append, blockLength?_of_goesOn goesOn, ih later, List.foldl_cons,
      Option.map_map]
    rfl

theorem Crosses.length (crosses : p.Crosses text q) (more : List Char) :
    blockLength? p (text ++ more) = (blockLength? q more).map (· + text.length) := by
  rw [blockLength?_append crosses.unended, crosses.counted]

theorem crosses_nil (p : Passing) : p.Crosses [] p := ⟨rfl, rfl⟩

theorem Crosses.append (first : p.Crosses text q) (second : q.Crosses more r) :
    p.Crosses (text ++ more) r := by
  refine ⟨?_, ?_⟩
  · rw [first.length, second.unended]
    rfl
  · rw [List.foldl_append, first.counted, second.counted]

theorem crosses_one (goesOn : ¬ p.Ends c) : p.Crosses [c] (p.next c) :=
  ⟨blockLength?_of_goesOn goesOn [], rfl⟩

theorem Crosses.cons (goesOn : ¬ p.Ends c) (later : (p.next c).Crosses text q) :
    p.Crosses (c :: text) q :=
  (crosses_one goesOn).append later

/-- A text of characters that change nothing. -/
theorem crosses_of_same (goesOn : ∀ c ∈ text, ¬ p.Ends c) (same : ∀ c ∈ text, p.next c = p) :
    p.Crosses text p := by
  induction text with
  | nil => exact crosses_nil p
  | cons c rest ih =>
    have first := List.forall_mem_cons.mp goesOn
    have unchanged := List.forall_mem_cons.mp same
    refine .cons first.1 ?_
    rw [unchanged.1]
    exact ih first.2 unchanged.2

/-- Inside a string no brace ends the block. -/
theorem not_ends_quoted {depth : Nat} {quote : Char} : ¬ Ends ⟨depth, some quote⟩ c := by
  rintro ⟨outside, _⟩
  cases outside

theorem not_ends_of_ne (other : c ≠ '\x7d') : ¬ p.Ends c := fun ends => other ends.2.1

/-! ### Outside strings -/

theorem crosses_plain (depth : Nat) (plain : Plain text) :
    Crosses ⟨depth, none⟩ text ⟨depth, none⟩ := by
  refine crosses_of_same ?_ ?_
  · rintro c member ⟨_, rfl, _⟩
    exact plain _ member (by decide)
  · intro c member
    have other := plain c member
    simp only [delimiters, List.mem_cons, List.not_mem_nil, or_false, not_or] at other
    simp [next, other]

theorem crosses_bracket (depth : Nat) (bracket : c ∈ ['(', ')', '[', ']']) :
    Crosses ⟨depth, none⟩ [c] ⟨depth, none⟩ := by
  simp only [List.mem_cons, List.not_mem_nil, or_false] at bracket
  rcases bracket with rfl | rfl | rfl | rfl
  all_goals exact crosses_one (not_ends_of_ne (by decide))

theorem crosses_string (depth : Nat) {quote : Char} (quoted : quote = '"' ∨ quote = '\'')
    (inside : quote ∉ text) : Crosses ⟨depth, none⟩ (quote :: text ++ [quote]) ⟨depth, none⟩ := by
  have opens : Crosses ⟨depth, none⟩ [quote] ⟨depth, some quote⟩ := by
    rcases quoted with rfl | rfl
    · exact crosses_one (not_ends_of_ne (by decide))
    · exact crosses_one (not_ends_of_ne (by decide))
  have within : Crosses ⟨depth, some quote⟩ text ⟨depth, some quote⟩ := by
    refine crosses_of_same (fun c _ => not_ends_quoted) fun c member => ?_
    have other : c ≠ quote := fun same => inside (same ▸ member)
    simp [next, other]
  have closes : Crosses ⟨depth, some quote⟩ [quote] ⟨depth, none⟩ := by
    have crosses : Crosses ⟨depth, some quote⟩ [quote] (next ⟨depth, some quote⟩ quote) :=
      crosses_one not_ends_quoted
    simpa [next] using crosses
  exact opens.append (within.append closes)

theorem crosses_open (depth : Nat) :
    Crosses ⟨depth, none⟩ ['\x7b'] ⟨depth + 1, none⟩ :=
  crosses_one (not_ends_of_ne (by decide))

theorem crosses_close {depth : Nat} (further : 0 < depth) :
    Crosses ⟨depth + 1, none⟩ ['\x7d'] ⟨depth, none⟩ :=
  crosses_one (by rintro ⟨_, _, zero⟩; exact absurd zero (Nat.ne_of_gt further))

/-! ### Blocks inside blocks -/

/-- Only a closing brace lowers the count. -/
theorem depth_le_next (other : c ≠ '\x7d') : p.depth ≤ (p.next c).depth := by
  unfold next
  split
  · split <;> exact Nat.le_refl _
  split
  · exact Nat.le_refl _
  split
  · exact Nat.le_succ _
  · exact Nat.le_refl _

/-- Until the block ends, a brace is open. -/
theorem next_pos (opened : 0 < p.depth) (goesOn : ¬ p.Ends c) : 0 < (p.next c).depth := by
  obtain ⟨depth, quote⟩ := p
  cases quote with
  | some quote =>
    simp only [next]
    split <;> exact opened
  | none =>
    by_cases brace : c = '\x7d'
    · exact Nat.pos_of_ne_zero fun zero => goesOn ⟨rfl, brace, zero⟩
    · exact Nat.lt_of_lt_of_le opened (depth_le_next brace)

/-- No text that the count goes on through brings it to zero. -/
theorem Crosses.pos (opened : 0 < p.depth) (crosses : p.Crosses text q) : 0 < q.depth := by
  obtain ⟨unended, rfl⟩ := crosses
  induction text generalizing p with
  | nil => exact opened
  | cons c rest ih =>
    obtain ⟨goesOn, later⟩ := goesOn_of_unended unended
    exact ih (next_pos opened goesOn) later

/-- The same place, with more braces open around it. -/
def deeper (p : Passing) (more : Nat) : Passing := ⟨p.depth + more, p.quote⟩

theorem next_deeper (opened : 0 < p.depth) (more : Nat) (c : Char) :
    (p.deeper more).next c = (p.next c).deeper more := by
  obtain ⟨depth, quote⟩ := p
  cases quote with
  | some quote => simp only [next, deeper]; split <;> rfl
  | none =>
    simp only [next, deeper]
    split
    · rfl
    split
    · exact congrArg (Passing.mk · none) (Nat.add_right_comm ..)
    split
    · exact congrArg (Passing.mk · none) (Nat.sub_add_comm opened)
    · rfl

/-- A whole block, seen from a place with braces open around it. -/
theorem crosses_block {ahead : List Char} {around : Nat} (inside : 0 < around)
    (opened : 0 < p.depth) (whole : blockLength? p (text ++ ahead) = some text.length) :
    (p.deeper around).Crosses text ⟨around, none⟩ := by
  induction text generalizing p with
  | nil => exact absurd (blockLength?_pos whole) (Nat.lt_irrefl 0)
  | cons c rest ih =>
    -- At the brace that ends the block by itself, those around it are still open.
    have unended : ¬ (p.deeper around).Ends c := by
      rintro ⟨_, _, zero⟩
      rw [next_deeper opened] at zero
      simp only [deeper] at zero
      omega
    refine .cons unended ?_
    rw [next_deeper opened]
    rw [List.cons_append] at whole
    by_cases ends : p.Ends c
    · rw [blockLength?_of_ends ends] at whole
      obtain ⟨outside, rfl, zero⟩ := ends
      injection whole with one
      obtain rfl := List.length_eq_zero_iff.mp (Nat.succ.inj one).symm
      have last : (p.next '\x7d').deeper around = ⟨around, none⟩ := by
        rw [deeper, zero, Nat.zero_add]
        simp [next, outside]
      rw [last]
      exact crosses_nil _
    · rw [blockLength?_of_goesOn ends] at whole
      obtain ⟨length, found, same⟩ := Option.map_eq_some_iff.mp whole
      exact ih (next_pos opened ends) (Nat.succ.inj same ▸ found)

/-- The same of a block from its opening brace on. -/
theorem crosses_whole {ahead : List Char} {around : Nat} (inside : 0 < around)
    (brace : text.head? = some '\x7b')
    (whole : blockLength? .start (text ++ ahead) = some text.length) :
    Crosses ⟨around, none⟩ text ⟨around, none⟩ := by
  obtain ⟨rest, rfl⟩ := List.head?_eq_some_iff.mp brace
  rw [List.cons_append, blockLength?_of_goesOn (not_ends_of_ne (by decide))] at whole
  obtain ⟨length, found, same⟩ := Option.map_eq_some_iff.mp whole
  obtain rfl := Nat.succ.inj same
  have opened : (deeper ⟨1, none⟩ around) = ⟨around + 1, none⟩ :=
    congrArg (Passing.mk · none) (Nat.add_comm 1 around)
  exact (crosses_open around).append (opened ▸ crosses_block inside Nat.one_pos found)

end Passing

/-! ## The count beside the scanner -/

/-- Whether a level is that of a block. -/
def Opening.isBlock : Opening → Bool
  | block => true
  | _ => false

/-- How many of the open levels are blocks. -/
def openBlocks (levels : List Level) : Nat := levels.countP (·.opening.isBlock)

theorem openBlocks_block (row : Row) (levels : List Level) :
    openBlocks (⟨.block, row⟩ :: levels) = openBlocks levels + 1 :=
  List.countP_cons_of_pos rfl

theorem openBlocks_other {opening : Opening} (other : opening ≠ .block) (row : Row)
    (levels : List Level) : openBlocks (⟨opening, row⟩ :: levels) = openBlocks levels := by
  refine List.countP_cons_of_neg ?_
  cases opening with
  | block => exact absurd rfl other
  | _ => exact Bool.false_ne_true

theorem openBlocks_le_of_suffix {inner outer : List Level} (suffix : inner <:+ outer) :
    openBlocks inner ≤ openBlocks outer :=
  suffix.sublist.countP_le

namespace Scanner

open Passing

variable {s next : Scanner} {text : List Char} {outer : Nat}

/-- A step inside a block takes the count from the number of open blocks before to the number of
those after.  Only the blocks inside the first `outer` ones are counted. -/
theorem Reads.crosses (reads : s.Reads next text) (before : outer < openBlocks s.levels)
    (after : outer < openBlocks next.levels) :
    Crosses ⟨openBlocks s.levels - outer, none⟩ text
      ⟨openBlocks next.levels - outer, none⟩ := by
  cases reads with
  | plain plain levels =>
    rw [levels]
    exact crosses_plain _ plain
  | string quoted inside levels =>
    rw [levels]
    exact crosses_string _ quoted inside
  | enter opening plain bracket levels =>
    rw [levels, openBlocks_other bracket]
    refine (crosses_plain _ plain).append (crosses_bracket _ ?_)
    cases opening with
    | block => exact absurd rfl bracket
    | _ => simp [Opening.opener]
  | @close level levels =>
    obtain ⟨opening, row⟩ := level
    rw [levels]
    by_cases block : opening = .block
    · -- An inner block closes, so the count goes down but not to zero.
      subst block
      rw [openBlocks_block, Nat.sub_add_comm (Nat.le_of_lt after)]
      exact crosses_close (Nat.sub_pos_of_lt after)
    · rw [openBlocks_other block]
      refine crosses_bracket _ ?_
      cases opening with
      | block => exact absurd rfl block
      | _ => simp [Opening.closer]
  | @run routine suspended around blanks levels plain opened =>
    rw [levels, openBlocks_other Opening.noConfusion] at before ⊢
    rw [opened, openBlocks_block, Nat.sub_add_comm (Nat.le_of_lt before)]
    have gate := crosses_bracket (openBlocks around - outer) (show ')' ∈ _ by decide)
    exact gate.append ((crosses_plain _ plain).append (crosses_open _))
  | skip levels plain brace whole =>
    rw [levels, openBlocks_other Opening.noConfusion]
    have gate := crosses_bracket (openBlocks next.levels - outer) (show ')' ∈ _ by decide)
    have passed := crosses_whole (Nat.sub_pos_of_lt after) brace whole
    exact gate.append ((crosses_plain _ plain).append passed)

/-- The scanner comes from one state to another without closing any of the levels in `base`. -/
inductive Stays (setting : Setting) (base : List Level) :
    Scanner × Store → Scanner × Store → Prop where
  | refl (state : Scanner × Store) : Stays setting base state state
  | step {s next : Scanner} {store between : Store} {last : Scanner × Store}
      (stepped : s.step setting store = (.ok (.more next), between))
      (inside : base <:+ next.levels) (later : Stays setting base (next, between) last) :
      Stays setting base (s, store) last

/-- A level that has just been opened is read up to the bracket that closes it. -/
structure Closes (setting : Setting) (inside : Scanner) (store : Store) (last : Scanner)
    (present : Store) : Prop where
  stays : Stays setting inside.levels (inside, store) (last, present)
  levels : last.levels = inside.levels
  closer : last.cursor.ahead.head? = inside.levels.head?.map (·.opening.closer)

/-- What a run inside a block reads. -/
theorem Stays.crosses {setting : Setting} {base : List Level} {first last : Scanner × Store}
    (stays : Stays setting base first last) (inside : base <:+ first.1.levels)
    (within : outer < openBlocks base) :
    ∃ text, first.1.cursor.Reads text last.1.cursor ∧
      Crosses ⟨openBlocks first.1.levels - outer, none⟩ text
        ⟨openBlocks last.1.levels - outer, none⟩ := by
  induction stays with
  | refl state => exact ⟨[], Cursor.reads_nil _, crosses_nil _⟩
  | step stepped further _ ih =>
    obtain ⟨text, reads, shape⟩ := readsTo_step stepped
    obtain ⟨more, later, crosses⟩ := ih further
    have before := Nat.lt_of_lt_of_le within (openBlocks_le_of_suffix inside)
    have after := Nat.lt_of_lt_of_le within (openBlocks_le_of_suffix further)
    exact ⟨text ++ more, reads.trans later, (shape.crosses before after).append crosses⟩

/-- The block that is run and the block that is passed over end with the same brace. -/
theorem Closes.blockLength? {setting : Setting} {inside last : Scanner} {store present : Store}
    {row : Row} {around : List Level} {brace : Cursor} (here : brace.ahead.head? = some '\x7b')
    (cursor : inside.cursor = brace.advance 1) (levels : inside.levels = ⟨.block, row⟩ :: around)
    (closes : inside.Closes setting store last present) :
    ∃ length, Scriptlet.blockLength? .start brace.ahead = some length ∧
      brace.advance length = last.cursor.advance 1 := by
  have within : openBlocks around < openBlocks inside.levels := by
    rw [levels, openBlocks_block]
    exact Nat.lt_succ_self _
  obtain ⟨text, reads, crosses⟩ := closes.stays.crosses (List.suffix_refl _) within
  have one : openBlocks inside.levels - openBlocks around = 1 := by
    rw [levels, openBlocks_block, Nat.add_sub_cancel_left]
  simp only [closes.levels, one, cursor] at crosses reads
  have whole := (Cursor.reads_one here).trans reads
  have ends : last.cursor.ahead.head? = some '\x7d' := by rw [closes.closer, levels]; rfl
  obtain ⟨rest, ahead⟩ := List.head?_eq_some_iff.mp ends
  have counted := ((crosses_open 0).append crosses).length last.cursor.ahead
  rw [ahead, blockLength?_of_ends ⟨rfl, rfl, rfl⟩, ← ahead, ← whole.ahead] at counted
  refine ⟨_, counted, ?_⟩
  -- One brace more was read than what lies in front of the closing one.
  have all := (whole.trans (Cursor.reads_one ends)).advance
  rw [List.length_append] at all
  rw [← all, Nat.add_comm]
  rfl

/-- A block that has been run goes on behind its brace. -/
theorem step_block {setting : Setting} {s next : Scanner} {store after : Store} {row : Row}
    {around : List Level} (levels : s.levels = ⟨.block, row⟩ :: around)
    (here : s.cursor.ahead.head? = some '\x7d')
    (stepped : s.step setting store = (.ok (.more next), after)) :
    ∃ values, next = ⟨s.cursor.advance 1, row.push (.value (.array values)), around⟩ := by
  rw [step_closer levels here] at stepped
  obtain ⟨values, between, evaluated, resumed⟩ := Action.bind_ok stepped
  cases resumed
  exact ⟨values, rfl⟩

end Scanner

/-! ## Whichever way the gate goes -/

/-- A block that is passed over ends where it would end if it were run.  Let the block behind a
brace be read as a level of its own, at any depth, in any scope and store, up to the brace that
closes the level.  Then the count of braces and quotes from the opening brace on comes to its end
with the same brace; the closed gate goes on directly behind it, and so does the open one once the
block has been evaluated.  And on every text, up to the brace that ends the block, the count is not
at zero, so that no closing brace is ever taken off nothing. -/
theorem skipped_block_ends_as_run (setting : Setting) :
    (∀ (s inside last : Scanner) (brace : Cursor) (store present : Store),
      brace.ahead.head? = some '\x7b' →
      s.enter setting .block (brace.advance 1) = .ok (.more inside) →
      inside.Closes setting store last present →
      (∃ length, blockLength? .start brace.ahead = some length ∧
        brace.pos + length = last.cursor.pos + 1) ∧
      (∀ closed : Value, closed.asBool = .ok false →
        brace = s.cursor.advance (s.cursor.ahead.takeWhile isBlank).length →
        s.afterGate setting closed =
          .ok (.more (s.add (.value (.array [])) (last.cursor.advance 1)))) ∧
      ∀ next after, last.step setting present = (.ok (.more next), after) →
        ∃ values, next = s.add (.value (.array values)) (last.cursor.advance 1)) ∧
    ∀ front rest : List Char, blockLength? .start ('\x7b' :: front) = none →
      let count := ('\x7b' :: front).foldl Passing.next .start
      0 < count.depth ∧
      blockLength? .start ('\x7b' :: front ++ rest) =
        (blockLength? count rest).map (· + (front.length + 1)) := by
  constructor
  · intro s inside last brace store present here entered closes
    have levels := Scanner.levels_of_enter entered
    obtain ⟨length, found, same⟩ :=
      closes.blockLength? here (Scanner.enter_cursor entered) levels
    refine ⟨⟨length, found, congrArg Cursor.pos same⟩, ?_, ?_⟩
    · rintro closed shut rfl
      simp only [Scanner.afterGate, if_pos here, shut, found, same]
    · intro next after stepped
      have ends : last.cursor.ahead.head? = some '\x7d' := by rw [closes.closer, levels]; rfl
      obtain ⟨values, rfl⟩ := Scanner.step_block (closes.levels.trans levels) ends stepped
      exact ⟨values, rfl⟩
  · intro front rest unended count
    have first := Passing.crosses_open 0
    have later := (Passing.goesOn_of_unended unended).2
    have crosses : Passing.Crosses ⟨1, none⟩ front count := ⟨later, rfl⟩
    exact ⟨crosses.pos Nat.one_pos, (first.append crosses).length rest⟩

/-- A quoted brace, and inside the block a closed gate whose block holds an open bracket: the brace
that closes the level is the one at which the count ends. -/
theorem skipped_block_ends_as_run_nested :
    let setting : Setting := ⟨⟨0⟩, 4⟩
    let bindings : Bindings :=
      ⟨[("if", .routine ⟨0, .builtin .gate⟩), ("no", .bool false)], by decide⟩
    let store : Store := ⟨#[⟨none, bindings, none, false⟩], 1, ⟨"", false⟩, #[],
      by decide +zetaReduce⟩
    let brace : Cursor := ⟨4, "\x7b'\x7d';if(no)\x7b(\x7d\x7d+".toList⟩
    let s : Scanner := ⟨brace, .empty, []⟩
    let inside : Scanner := ⟨brace.advance 1, .empty, [⟨.block, .empty⟩]⟩
    let last : Scanner := ⟨⟨18, ['\x7d', '+']⟩,
      ⟨[.value (.array []), .operator .separator, .value (.string "\x7d")], [.separator]⟩,
      [⟨.block, .empty⟩]⟩
    let next := s.add (.value (.array [.string "\x7d", .array []])) ⟨19, ['+']⟩
    s.enter setting .block (brace.advance 1) = .ok (.more inside) ∧
    inside.Closes setting store last store ∧
    (∃ length, blockLength? .start brace.ahead = some length ∧ 4 + length = 19) ∧
    s.afterGate setting (.bool false) = .ok (.more (s.add (.value (.array [])) ⟨19, ['+']⟩)) ∧
    last.step setting store = (.ok (.more next), store) ∧
    (∃ values, next = s.add (.value (.array values)) ⟨19, ['+']⟩) ∧
    blockLength? .start ['\x7b', '"', '\x7d'] = none ∧
    0 < (['\x7b', '"', '\x7d'].foldl Passing.next .start).depth := by
  intro setting bindings store brace s inside last next
  have entered : s.enter setting .block (brace.advance 1) = .ok (.more inside) := rfl
  let base : List Level := [⟨.block, .empty⟩]
  let quoted : Row := ⟨[.value (.string "\x7d")], []⟩
  let separated := quoted.push (.operator .separator)
  let called : List Level := ⟨.call ⟨0, .builtin .gate⟩, separated⟩ :: base
  let afterString : Scanner := ⟨⟨8, ";if(no)\x7b(\x7d\x7d+".toList⟩, quoted, base⟩
  let afterSign : Scanner := ⟨⟨9, "if(no)\x7b(\x7d\x7d+".toList⟩, separated, base⟩
  let inCall : Scanner := ⟨⟨12, "no)\x7b(\x7d\x7d+".toList⟩, .empty, called⟩
  let afterLabel : Scanner :=
    ⟨⟨14, ")\x7b(\x7d\x7d+".toList⟩, ⟨[.label ⟨⟨0⟩, "no"⟩], []⟩, called⟩
  have string : inside.step setting store = (.ok (.more afterString), store) := rfl
  have sign : afterString.step setting store = (.ok (.more afterSign), store) := rfl
  have named : readName store setting.home afterSign.cursor =
      .ok (⟨⟨0⟩, "if"⟩, ⟨11, "(no)\x7b(\x7d\x7d+".toList⟩) := rfl
  have resolved : Label.resolve ⟨⟨0⟩, "if"⟩ store = .ok (.routine ⟨0, .builtin .gate⟩) := by cbv
  have call : afterSign.step setting store = (.ok (.more inCall), store) := by
    show afterSign.name setting store = _
    rw [Scanner.name_of_call named rfl resolved]
    rfl
  have label : inCall.step setting store = (.ok (.more afterLabel), store) := rfl
  have gate : afterLabel.step setting store = (.ok (.more last), store) := by
    rw [Scanner.step_closer rfl rfl]
    cbv
  have stepped : last.step setting store = (.ok (.more next), store) := by
    rw [Scanner.step_closer rfl rfl]
    cbv
  have closes : inside.Closes setting store last store := by
    have here : base <:+ base := List.suffix_refl _
    have deeper : base <:+ called := List.suffix_cons _ _
    exact ⟨.step string here (.step sign here (.step call deeper (.step label deeper
      (.step gate here (.refl _))))), rfl, rfl⟩
  have agrees := skipped_block_ends_as_run setting
  obtain ⟨counted, shut, opened⟩ := agrees.1 s inside last brace store store rfl entered closes
  exact ⟨entered, closes, counted, shut (.bool false) rfl rfl, stepped, opened next store stepped,
    rfl, (agrees.2 ['"', '\x7d'] [] rfl).1⟩

end Scriptlet
