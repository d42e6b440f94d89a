import Mathlib.Data.List.Basic
import Scriptlet.Proofs.Placement
set_option autoImplicit false

/-!
# Brackets balance

A text is read only if its brackets balance.  Two descriptions of that are compared: a word of
brackets is properly nested, as its shape says, and it closes a stack of open brackets, as a machine
that takes one bracket after the other finds out.  The open levels of the scanner are such a stack.
A step takes literals and tokens without brackets out of the text, or one bracket, and keeps whether
the text ahead closes what is open; where a step fails for its brackets, it does not.
-/

namespace Scriptlet

/-! ## Literals -/

/-- The quote that is open behind a character.  A quote opens a literal, and only the same one
closes it. -/
def quoteBehind (quote : Option Char) (c : Char) : Option Char :=
  match quote with
  | some opened => if c = opened then none else some opened
  | none => if c = '"' ∨ c = '\'' then some c else none

/-- The quote of the literal that a text leaves open. -/
def openQuote (quote : Option Char) (text : List Char) : Option Char :=
  text.foldl quoteBehind quote

/-- The characters of a text that stand outside its literals. -/
def outside (quote : Option Char) : List Char → List Char
  | [] => []
  | c :: rest =>
    if quote = none ∧ quoteBehind quote c = none then c :: outside none rest
    else outside (quoteBehind quote c) rest

theorem outside_append (quote : Option Char) (text more : List Char) :
    outside quote (text ++ more) = outside quote text ++ outside (openQuote quote text) more := by
  induction text generalizing quote with
  | nil => rfl
  | cons c rest ih =>
    rw [List.cons_append, outside, outside, openQuote, List.foldl_cons, ← openQuote]
    split
    · rename_i shown
      rw [ih, shown.2, List.cons_append]
    · rw [ih]

/-- The text starts and ends outside all literals, and `shown` is what stands outside them. -/
structure Shows (text shown : List Char) : Prop where
  visible : outside none text = shown
  closed : openQuote none text = none

namespace Shows

variable {text shown : List Char}

theorem outside_append (shows : Shows text shown) (more : List Char) :
    outside none (text ++ more) = shown ++ outside none more := by
  rw [Scriptlet.outside_append, shows.visible, shows.closed]

theorem openQuote_append (shows : Shows text shown) (more : List Char) :
    openQuote none (text ++ more) = openQuote none more := by
  have closed := shows.closed
  rw [openQuote] at closed
  rw [openQuote, List.foldl_append, closed, openQuote]

theorem cons {c : Char} (shows : Shows text shown) (unquoted : c ≠ '"' ∧ c ≠ '\'') :
    Shows (c :: text) (c :: shown) := by
  have behind : quoteBehind none c = none := by simp [quoteBehind, unquoted]
  refine ⟨?_, ?_⟩
  · rw [outside, if_pos ⟨rfl, behind⟩, shows.visible]
  · rw [openQuote, List.foldl_cons, behind]
    exact shows.closed

theorem append {more also : List Char} (first : Shows text shown) (second : Shows more also) :
    Shows (text ++ more) (shown ++ also) :=
  ⟨by rw [first.outside_append, second.visible], by rw [first.openQuote_append, second.closed]⟩

end Shows

theorem shows_nil : Shows [] [] := ⟨rfl, rfl⟩

theorem shows_one {c : Char} (unquoted : c ≠ '"' ∧ c ≠ '\'') : Shows [c] [c] :=
  shows_nil.cons unquoted

theorem Plain.shows {text : List Char} (plain : Plain text) : Shows text text := by
  induction text with
  | nil => exact shows_nil
  | cons c rest ih =>
    obtain ⟨here, later⟩ := List.forall_mem_cons.mp plain
    refine (ih later).cons ⟨?_, ?_⟩
    · rintro rfl
      exact here (by decide)
    · rintro rfl
      exact here (by decide)

/-- Nothing of a literal stands outside it, whatever the literal holds. -/
theorem shows_literal {quote : Char} {inner : List Char} (quoted : quote = '"' ∨ quote = '\'')
    (inside : quote ∉ inner) : Shows (quote :: inner ++ [quote]) [] := by
  have opens : quoteBehind none quote = some quote := if_pos quoted
  have within (text : List Char) (other : quote ∉ text) :
      outside (some quote) (text ++ [quote]) = [] ∧
        openQuote (some quote) (text ++ [quote]) = none := by
    induction text with
    | nil => simp [outside, openQuote, quoteBehind]
    | cons c rest ih =>
      obtain ⟨differs, later⟩ := not_or.mp (mt List.mem_cons.mpr other)
      have stays : quoteBehind (some quote) c = some quote := if_neg fun same => differs same.symm
      obtain ⟨hidden, closed⟩ := ih later
      refine ⟨?_, ?_⟩
      · rw [List.cons_append, outside, if_neg (fun shown => by cases shown.1), stays, hidden]
      · rw [List.cons_append, openQuote, List.foldl_cons, stays]
        exact closed
  obtain ⟨hidden, closed⟩ := within inner inside
  refine ⟨?_, ?_⟩
  · rw [List.cons_append, outside, if_neg (fun shown => by simp [opens] at shown), opens, hidden]
  · rw [List.cons_append, openQuote, List.foldl_cons, opens]
    exact closed

/-! ## Words of brackets -/

/-- The bracket that closes an opening one. -/
def closerOf? : Char → Option Char
  | '(' => some ')'
  | '[' => some ']'
  | _ => none

/-- The brackets of groups, calls and arrays. -/
def isBracket (c : Char) : Bool := c == '(' || c == ')' || c == '[' || c == ']'

/-- The brackets of a text outside its literals. -/
def bracketWord (text : List Char) : List Char := (outside none text).filter isBracket

/-- No brace stands outside the literals of a text. -/
def Braceless (text : List Char) : Prop := ∀ c ∈ outside none text, c ≠ '\x7b' ∧ c ≠ '\x7d'

instance (text : List Char) : Decidable (Braceless text) :=
  decidable_of_iff ((outside none text).all (fun c => c != '\x7b' && c != '\x7d') = true)
    (by simp [Braceless])

/-- A word of brackets in which each one that opens is closed by one of its kind, those between them
being nested in the same way, and at most `depth` are open at a time. -/
inductive Nested : Nat → List Char → Prop where
  | nil (depth : Nat) : Nested depth []
  | pair {depth : Nat} {opener closer : Char} {inner rest : List Char}
      (kind : closerOf? opener = some closer) (inside : Nested depth inner)
      (behind : Nested (depth + 1) rest) :
      Nested (depth + 1) (opener :: (inner ++ closer :: rest))

/-- A word of brackets closes those that are open, whose closing ones are given innermost first, and
at no time more than `limit` are open. -/
def Unwinds (limit : Nat) (stack : List Char) : List Char → Prop
  | [] => stack = []
  | c :: rest =>
    match closerOf? c with
    | some closer => stack.length < limit ∧ Unwinds limit (closer :: stack) rest
    | none => stack.head? = some c ∧ Unwinds limit stack.tail rest

theorem closerOf?_closer {opener closer : Char} (kind : closerOf? opener = some closer) :
    closerOf? closer = none := by
  unfold closerOf? at kind
  split at kind <;> cases kind <;> rfl

theorem isBracket_of_kind {opener closer : Char} (kind : closerOf? opener = some closer) :
    isBracket opener = true ∧ isBracket closer = true := by
  unfold closerOf? at kind
  split at kind <;> cases kind <;> exact ⟨rfl, rfl⟩

section Words

variable {limit : Nat} {stack rest : List Char} {c closer : Char}

theorem unwinds_opener (kind : closerOf? c = some closer) :
    Unwinds limit stack (c :: rest) ↔
      stack.length < limit ∧ Unwinds limit (closer :: stack) rest := by
  rw [Unwinds, kind]

theorem unwinds_closer (kind : closerOf? c = none) :
    Unwinds limit stack (c :: rest) ↔ stack.head? = some c ∧ Unwinds limit stack.tail rest := by
  rw [Unwinds, kind]

end Words

/-- A nested word in front changes nothing on the stack. -/
theorem Nested.unwinds_append {depth limit : Nat} {word rest stack : List Char}
    (nested : Nested depth word) (within : stack.length + depth ≤ limit)
    (behind : Unwinds limit stack rest) : Unwinds limit stack (word ++ rest) := by
  induction nested generalizing stack rest with
  | nil depth => exact behind
  | @pair depth opener closer inner later kind _ _ insideIH laterIH =>
    have closed : Unwinds limit (closer :: stack) (closer :: (later ++ rest)) :=
      (unwinds_closer (closerOf?_closer kind)).mpr ⟨rfl, laterIH within behind⟩
    have opened := insideIH (by rw [List.length_cons]; omega) closed
    rw [List.cons_append, List.append_assoc, List.cons_append]
    exact (unwinds_opener kind).mpr ⟨by omega, opened⟩

/-- A word that closes a stack begins with a nested word, and the bracket that closes the top of the
stack comes directly behind it. -/
theorem Unwinds.exists_nested {limit : Nat} {stack word : List Char}
    (closes : Unwinds limit stack word) :
    ∃ inner, Nested (limit - stack.length) inner ∧
      ((stack = [] ∧ word = inner) ∨ ∃ closer outer rest,
        stack = closer :: outer ∧ word = inner ++ closer :: rest ∧ Unwinds limit outer rest) := by
  -- What follows the pair in front is shorter than the word, and so is what the pair encloses.
  induction length : word.length using Nat.strongRecOn generalizing stack word with
  | ind _ ih =>
    cases word with
    | nil => exact ⟨[], .nil _, .inl ⟨closes, rfl⟩⟩
    | cons c rest =>
      cases kind : closerOf? c with
      | none =>
        obtain ⟨top, behind⟩ := (unwinds_closer kind).mp closes
        obtain ⟨outer, rfl⟩ := List.head?_eq_some_iff.mp top
        exact ⟨[], .nil _, .inr ⟨c, outer, rest, rfl, rfl, behind⟩⟩
      | some closer =>
        obtain ⟨below, opened⟩ := (unwinds_opener kind).mp closes
        rw [List.length_cons] at length
        obtain ⟨inner, nested, ⟨⟨⟩, _⟩ | ⟨_, _, later, ⟨⟩, rfl, behind⟩⟩ :=
          ih _ (by omega) opened rfl
        rw [List.length_append, List.length_cons] at length
        obtain ⟨next, also, ends⟩ := ih _ (by omega) behind rfl
        have one : limit - stack.length = limit - (stack.length + 1) + 1 := by omega
        have pair : Nested (limit - stack.length) (c :: (inner ++ closer :: next)) :=
          one ▸ .pair kind nested (one ▸ also)
        refine ⟨_, pair, ?_⟩
        rcases ends with ⟨bare, rfl⟩ | ⟨top, outer, rest, held, rfl, further⟩
        · exact .inl ⟨bare, rfl⟩
        · exact .inr ⟨top, outer, rest, held, by simp, further⟩

/-- The two descriptions agree. -/
theorem unwinds_nil_iff {limit : Nat} {word : List Char} :
    Unwinds limit [] word ↔ Nested limit word := by
  constructor
  · intro closes
    obtain ⟨inner, nested, ⟨_, rfl⟩ | ⟨_, _, _, ⟨⟩, _⟩⟩ := closes.exists_nested
    exact nested
  · intro nested
    have empty : Unwinds limit [] [] := rfl
    have closes := nested.unwinds_append (by simp) empty
    rwa [List.append_nil] at closes

/-! ## One step -/

theorem Plain.filter_isBracket {text : List Char} (plain : Plain text) :
    text.filter isBracket = [] := by
  refine List.filter_eq_nil_iff.mpr fun c member bracket => plain c member ?_
  simp only [isBracket, Bool.or_eq_true, beq_iff_eq] at bracket
  rcases bracket with ((rfl | rfl) | rfl) | rfl <;> decide

theorem Shows.bracketWord_append {text shown : List Char} (shows : Shows text shown)
    (more : List Char) :
    bracketWord (text ++ more) = shown.filter isBracket ++ bracketWord more := by
  rw [bracketWord, shows.outside_append, List.filter_append, bracketWord]

theorem bracketWord_cons {c : Char} (kept : isBracket c = true) (more : List Char) :
    bracketWord (c :: more) = c :: bracketWord more := by
  have unquoted : c ≠ '"' ∧ c ≠ '\'' := by
    constructor <;> rintro rfl <;> cases kept
  have word := (shows_one unquoted).bracketWord_append more
  rwa [List.filter_cons_of_pos kept] at word

theorem Braceless.behind {text shown more : List Char} (braceless : Braceless (text ++ more))
    (shows : Shows text shown) : Braceless more := by
  intro c member
  refine braceless c ?_
  rw [shows.outside_append]
  exact List.mem_append_right _ member

/-- A brace that stands outside the literals is seen. -/
theorem Shows.not_braceless {front shown : List Char} (shows : Shows front shown)
    (rest : List Char) {brace : Char} (either : brace = '\x7b' ∨ brace = '\x7d') :
    ¬ Braceless (front ++ brace :: rest) := by
  intro braceless
  have alone : Shows [brace] [brace] := by
    rcases either with rfl | rfl <;> exact shows_one (by decide)
  have seen : brace ∈ outside none (front ++ brace :: rest) := by
    rw [shows.outside_append, ← List.singleton_append, alone.outside_append]
    exact List.mem_append_right _ (List.mem_append_left _ (List.mem_singleton_self brace))
  rcases either with rfl | rfl
  · exact (braceless _ seen).1 rfl
  · exact (braceless _ seen).2 rfl

namespace Opening

variable {opening : Opening}

theorem closerOf?_opener (bracket : opening ≠ .block) :
    closerOf? opening.opener = some opening.closer := by
  cases opening with
  | group pos => rfl
  | array => rfl
  | call routine => rfl
  | block => exact absurd rfl bracket

theorem closerOf?_closer (bracket : opening ≠ .block) : closerOf? opening.closer = none :=
  Scriptlet.closerOf?_closer (closerOf?_opener bracket)

theorem shows_opener (opening : Opening) : Shows [opening.opener] [opening.opener] := by
  cases opening with
  | group pos => exact shows_one (c := '(') (by decide)
  | array => exact shows_one (by decide)
  | call routine => exact shows_one (c := '(') (by decide)
  | block => exact shows_one (by decide)

theorem shows_closer (opening : Opening) : Shows [opening.closer] [opening.closer] := by
  cases opening with
  | group pos => exact shows_one (c := ')') (by decide)
  | array => exact shows_one (by decide)
  | call routine => exact shows_one (c := ')') (by decide)
  | block => exact shows_one (by decide)

/-- In a text without braces no block is closed. -/
theorem ne_block {more : List Char} (braceless : Braceless (opening.closer :: more)) :
    opening ≠ .block := by
  rintro rfl
  exact shows_nil.not_braceless more (.inr rfl) braceless

end Opening

namespace Scanner

/-- The brackets that close the open levels, innermost first. -/
def closers (s : Scanner) : List Char := s.levels.map fun level => level.opening.closer

/-- The brackets ahead close the open levels, under a limit on nesting. -/
def Balanced (s : Scanner) (limit : Nat) : Prop :=
  Unwinds limit s.closers (bracketWord s.cursor.ahead)

variable {s next : Scanner} {limit : Nat}

/-- More levels are opened only below the limit. -/
theorem Moves.length_levels (moves : s.Moves limit next) :
    next.levels.length ≤ max s.levels.length limit := by
  induction moves with
  | skip _ => exact Nat.le_max_left _ _
  | add _ _ => exact Nat.le_max_left _ _
  | replace _ _ _ _ => exact Nat.le_max_left _ _
  | enter _ _ _ below => exact Nat.le_trans below (Nat.le_max_right _ _)
  | close levels _ ih =>
    rw [levels, List.length_cons]
    simp only at ih
    omega

/-- The closing bracket of the present level takes it off the stack. -/
theorem balanced_closer {level : Level} {outer : List Level} {more : List Char}
    (levels : s.levels = level :: outer) (ahead : s.cursor.ahead = level.opening.closer :: more)
    (braceless : Braceless s.cursor.ahead) :
    s.Balanced limit ↔ Unwinds limit (outer.map fun level => level.opening.closer)
      (bracketWord more) := by
  rw [ahead] at braceless
  have bracket := Opening.ne_block braceless
  have kept := (isBracket_of_kind (Opening.closerOf?_opener bracket)).2
  rw [Balanced, ahead, bracketWord_cons kept, closers, levels, List.map_cons,
    unwinds_closer (Opening.closerOf?_closer bracket)]
  exact and_iff_right rfl

/-- What the text between two scanners does to the brackets: it holds its literals whole, and the
brackets ahead balance before it exactly if they do behind it and no level was opened above the
limit. -/
structure KeepsBalance (s next : Scanner) (text : List Char) : Prop where
  literals : ∃ shown, Shows text shown
  balanced : ∀ limit, s.Balanced limit ↔
    next.levels.length ≤ max s.levels.length limit ∧ next.Balanced limit

theorem keepsBalance_of_same {text shown : List Char}
    (ahead : s.cursor.ahead = text ++ next.cursor.ahead) (shows : Shows text shown)
    (bare : shown.filter isBracket = []) (levels : next.levels = s.levels) :
    s.KeepsBalance next text := by
  refine ⟨⟨shown, shows⟩, fun limit => ?_⟩
  rw [Balanced, Balanced, ahead, shows.bracketWord_append, bare, List.nil_append, closers,
    closers, levels]
  exact (and_iff_right (Nat.le_max_left _ _)).symm

theorem keepsBalance_of_enter {opening : Opening} {front : List Char}
    (ahead : s.cursor.ahead = front ++ [opening.opener] ++ next.cursor.ahead) (plain : Plain front)
    (bracket : opening ≠ .block) (levels : next.levels = ⟨opening, s.row⟩ :: s.levels) :
    s.KeepsBalance next (front ++ [opening.opener]) := by
  have kind := Opening.closerOf?_opener bracket
  have shows := plain.shows.append opening.shows_opener
  have word : bracketWord s.cursor.ahead = opening.opener :: bracketWord next.cursor.ahead := by
    rw [ahead, List.append_assoc, List.singleton_append, plain.shows.bracketWord_append,
      plain.filter_isBracket, bracketWord_cons (isBracket_of_kind kind).1, List.nil_append]
  refine ⟨⟨_, shows⟩, fun limit => ?_⟩
  rw [Balanced, word, unwinds_opener kind, Balanced, closers, closers, levels, List.map_cons,
    List.length_map, List.length_cons]
  exact and_congr_left' (by omega)

theorem keepsBalance_of_close {level : Level}
    (ahead : s.cursor.ahead = level.opening.closer :: next.cursor.ahead)
    (braceless : Braceless s.cursor.ahead) (levels : s.levels = level :: next.levels) :
    s.KeepsBalance next [level.opening.closer] := by
  refine ⟨⟨_, level.opening.shows_closer⟩, fun limit => ?_⟩
  rw [balanced_closer levels ahead braceless, levels, List.length_cons]
  exact (and_iff_right (by omega)).symm

/-- Every step that goes on in a text without braces keeps the balance. -/
theorem Reads.keepsBalance {text : List Char} (reads : s.Reads next text)
    (ahead : s.cursor.ahead = text ++ next.cursor.ahead) (braceless : Braceless s.cursor.ahead) :
    s.KeepsBalance next text := by
  -- No block stands behind the bracket that closes the call of a gate.
  have no_block {blanks more : List Char} (plain : Plain blanks)
      (found : s.cursor.ahead = ')' :: blanks ++ '\x7b' :: more) : False := by
    have front : Shows (')' :: blanks) (')' :: blanks) := plain.shows.cons (by decide)
    rw [found] at braceless
    exact front.not_braceless more (.inl rfl) braceless
  cases reads with
  | plain plain levels => exact keepsBalance_of_same ahead plain.shows plain.filter_isBracket levels
  | string quoted inside levels =>
    exact keepsBalance_of_same ahead (shows_literal quoted inside) rfl levels
  | enter opening plain bracket levels => exact keepsBalance_of_enter ahead plain bracket levels
  | close levels => exact keepsBalance_of_close ahead braceless levels
  | run levels plain opened => exact (no_block plain (by simpa using ahead)).elim
  | skip levels plain brace whole =>
    obtain ⟨inner, rfl⟩ := List.head?_eq_some_iff.mp brace
    exact (no_block plain (by simpa using ahead)).elim

/-- Where the text goes astray, the brackets ahead balance under no limit. -/
theorem Astray.not_balanced (astray : s.Astray) (braceless : Braceless s.cursor.ahead) :
    ¬ s.Balanced limit := by
  induction astray with
  | @ended s ahead inside =>
    intro balanced
    rw [Balanced, ahead] at balanced
    exact inside (List.map_eq_nil_iff.mp balanced)
  | @closing s c here bracket other =>
    intro balanced
    obtain ⟨more, ahead⟩ := List.head?_eq_some_iff.mp here
    have top (kind : closerOf? c = none) (kept : isBracket c = true) : False := by
      rw [Balanced, ahead, bracketWord_cons kept, unwinds_closer kind, closers,
        List.head?_map] at balanced
      obtain ⟨level, first, closes⟩ := Option.map_eq_some_iff.mp balanced.1
      exact other level first closes
    rcases bracket with rfl | rfl | rfl
    · exact top rfl rfl
    · exact top rfl rfl
    · exact shows_nil.not_braceless more (.inr rfl) (ahead ▸ braceless)
  | @block s brace =>
    obtain ⟨more, found⟩ := List.head?_eq_some_iff.mp brace
    have parts : s.cursor.ahead.takeWhile isBlank ++ '\x7b' :: more = s.cursor.ahead := by
      rw [← found, List.takeWhile_append_dropWhile]
    have blanks := (plain_takeWhile isBlank_delimiters s.cursor.ahead).shows
    rw [← parts] at braceless
    exact absurd braceless (blanks.not_braceless more (.inl rfl))
  | @closed s level outer levels here _ ih =>
    obtain ⟨more, ahead⟩ := List.head?_eq_some_iff.mp here
    have behind : (s.cursor.advance 1).ahead = more := by rw [Cursor.advance, ahead]; rfl
    rw [balanced_closer levels ahead braceless, ← behind]
    refine ih ?_
    rw [ahead, ← List.singleton_append] at braceless
    exact behind ▸ braceless.behind level.opening.shows_closer

/-! ## To the end of a text -/

/-- A text without braces that is read to its end leaves no literal open, and its brackets close the
open levels within the limit; one that fails for its brackets does not have them balanced. -/
theorem ensures_balanced (setting : Setting) (mirrored : s.Mirrored)
    (braceless : Braceless s.cursor.ahead) :
    Action.Ensures (s.run setting)
      (fun _ => openQuote none s.cursor.ahead = none ∧ s.Balanced setting.maxDepth)
      (fun fault => fault.OfBrackets → ∀ limit, ¬ s.Balanced limit) := by
  -- Each step that leaves more to read has read a character.
  induction length : s.cursor.ahead.length using Nat.strongRecOn generalizing s with
  | ind _ ih =>
    rw [run_eq]
    have step := (ensures_step setting mirrored.row).produced
    refine (step.mono (fun _ => id) ?_).bind ?_
    · rintro fault (tokens | ⟨_, astray⟩ | _) brackets limit
      · exact absurd brackets (fault.ofTokens_iff.mp tokens).2
      · exact astray.not_balanced braceless
      · exact brackets.elim
    rintro progress ⟨came, store, after, stepped⟩
    rcases came with went | ⟨_, rfl⟩
    · cases went with
      | @more next moved =>
        obtain ⟨text, reads, shape⟩ := readsTo_step stepped
        obtain ⟨⟨shown, shows⟩, balanced⟩ := shape.keepsBalance reads.ahead braceless
        have further := (reads.ahead ▸ braceless).behind shows
        have shorter := step_shorter stepped
        refine (ih _ (by omega) (mirrored.moves moved) further rfl).mono ?_ ?_
        · rintro _ ⟨closed, later⟩
          rw [reads.ahead, shows.openQuote_append]
          exact ⟨closed, (balanced _).mpr ⟨moved.length_levels, later⟩⟩
        · intro fault failed brackets limit now
          exact failed brackets limit ((balanced limit).mp now).2
    · obtain ⟨ahead, levels, _⟩ := step_done stepped
      refine .pure ?_
      rw [Balanced, closers, ahead, levels]
      exact ⟨rfl, rfl⟩

end Scanner

/-- Brackets must balance.  If a text without braces outside its literals is read to the end of a
draft, then every literal in it is closed, and its brackets outside the literals are properly nested
and no deeper than the limit.  If reading fails with the code of a bracket that is not closed, that
closes nothing or that closes another one, then they are not properly nested, however deep. -/
theorem brackets_balance (draft : Draft) (source : String) (store : Store)
    (braceless : Braceless source.toList) :
    (∀ edited after, draft.read source store = (.ok edited, after) →
      openQuote none source.toList = none ∧
        Nested draft.setting.maxDepth (bracketWord source.toList)) ∧
    ∀ fault after, draft.read source store = (.error fault, after) →
      fault.code.number ∈ [192, 194, 197] →
      ∀ depth, ¬ Nested depth (bracketWord source.toList) := by
  have scanned := Scanner.ensures_balanced draft.setting
    (Scanner.mirrored_start (.ofText source.toList 0)) braceless store
  constructor
  · intro edited after done
    obtain ⟨st, _, read, _⟩ := Action.bind_ok done
    obtain ⟨closed, balanced⟩ := scanned.result (congrArg Prod.fst read)
    exact ⟨closed, unwinds_nil_iff.mp balanced⟩
  · intro fault after failed code depth nested
    rcases Action.bind_error failed with failed | ⟨_, _, _, finished⟩
    · have unbalanced := scanned.fault (congrArg Prod.fst failed)
      exact unbalanced (fault.ofBrackets_iff.mpr code) depth (unwinds_nil_iff.mpr nested)
    · cases finished

/-- A bracket in a literal does not count, and the others need two levels; the bracket of an array
does not close a group. -/
theorem brackets_balance_literal :
    let draft := Draft.new ⟨0⟩ 2
    let read : Draft := ⟨draft.setting, [.value (.array [.string ")"])], []⟩
    (Braceless "([\")\"])".toList ∧
      draft.read "([\")\"])" Store.empty = (.ok read, Store.empty) ∧
      bracketWord "([\")\"])".toList = ['(', '[', ']', ')'] ∧ Nested 2 ['(', '[', ']', ')']) ∧
    Braceless "(]".toList ∧
      draft.read "(]" Store.empty = (.error (.closingMismatch ']' 1 ')'), Store.empty) ∧
      ∀ depth, ¬ Nested depth ['(', ']'] := by
  intro draft read
  have first : draft.read "([\")\"])" Store.empty = (.ok read, Store.empty) := by cbv
  have second : draft.read "(]" Store.empty =
      (.error (.closingMismatch ']' 1 ')'), Store.empty) := by cbv
  refine ⟨⟨by decide, first, by decide, ?_⟩, by decide, second, ?_⟩
  · exact ((brackets_balance draft _ _ (by decide)).1 _ _ first).2
  · exact (brackets_balance draft _ _ (by decide)).2 _ _ second (by decide)

end Scriptlet
