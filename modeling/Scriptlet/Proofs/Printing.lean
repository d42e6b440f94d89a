import Scriptlet.Proofs.DottedNames
import Scriptlet.Proofs.Sequels
set_option autoImplicit false

/-!
# Printed statements

A statement is printed as its tokens with blanks between them.  Operators, names of the scope and
strings without escapes can be read back from that text, whatever the order they stand in: each
token is read as itself up to the blank behind it, and no token is read together with its
neighbours.  The statement that is read is the one that was printed, and the store plays no part.
-/

namespace Scriptlet

/-! ## Tokens that can be read back -/

/-- A letter or an underscore, and then letters, digits and underscores. -/
def IsIdentifier (name : String) : Prop :=
  ∃ c rest, name.toList = c :: rest ∧ isNameStart c = true ∧ ∀ d ∈ rest, isNamePart d = true

/-- The token is an operator, a name of the scope that is an identifier, or a string of which no
character is escaped when it is printed. -/
def Token.Legible (home : ScopeId) : Token → Prop
  | value (.string s) => ∀ c ∈ s.toList, quoteChar c = [c]
  | value _ => False
  | label l => l.scope = home ∧ IsIdentifier l.name
  | operator _ => True

namespace Scanner

/-- The text is read as the token in one step, in front of a blank or the end, and nothing else
happens. -/
def ReadsAs (setting : Setting) (text : List Char) (token : Token) : Prop :=
  ∀ (s : Scanner) (store : Store) (behind : List Char), s.cursor.ahead = text ++ behind →
    (∀ c, behind.head? = some c → c = ' ') →
    s.step setting store =
      (.ok (.more (s.add token ⟨s.cursor.pos + text.length, behind⟩)), store)

theorem step_blank {s : Scanner} {rest : List Char} (ahead : s.cursor.ahead = ' ' :: rest)
    (setting : Setting) (store : Store) :
    s.step setting store = (.ok (.more { s with cursor := ⟨s.cursor.pos + 1, rest⟩ }), store) := by
  simp only [step, ahead, Cursor.advance]
  rfl

theorem readsAs_label (setting : Setting) {name : String} (identifier : IsIdentifier name) :
    ReadsAs setting name.toList (.label ⟨setting.home, name⟩) := by
  intro s store behind ahead ends
  obtain ⟨c, rest, text, start, parts⟩ := identifier
  have faces : s.Faces [] name := by
    refine ⟨behind, ahead, fun d found => ?_⟩
    rw [ends d found]
    decide
  have whole : ∀ part ∈ ([] : List String), IsNamePart part := List.forall_mem_nil _
  have last : IsNamePart name := by
    rw [IsNamePart, text]
    exact List.forall_mem_cons.mpr ⟨isNamePart_of_isNameStart start, parts⟩
  have first : (dottedText [] name).head? = some c := by
    rw [dottedText, text]
    rfl
  rw [step_of_faces faces first start, name_of_leads faces whole last (.here setting.home)]
  simp only [behindName, dottedText, List.flatMap_nil, List.nil_append, Cursor.advance, ahead,
    List.drop_left]

theorem readsAs_operator (setting : Setting) (op : Operator) :
    ReadsAs setting op.symbol.toList (.operator op) := by
  intro s store behind ahead ends
  have single : behind.head? ≠ some '=' := fun found => absurd (ends '=' found) (by decide)
  have read {c : Char} {rest : List Char} (text : op.symbol.toList = c :: rest)
      (other : isBlank c = false ∧ isNumberChar c = false ∧ isNameStart c = false)
      (found : operatorAt? c rest = some (op, (c :: rest).length)) :
      s.step setting store = (.ok (.more (s.add (.operator op)
        ⟨s.cursor.pos + op.symbol.toList.length, behind⟩)), store) := by
    rw [text] at ahead ⊢
    simp only [step, ahead, List.cons_append, other, Bool.false_eq_true, if_false, symbol,
      operatorAt?_append single, found]
    rw [Cursor.advance, ahead, List.drop_left]
    rfl
  cases op <;> exact read rfl (by decide) rfl

theorem readsAs_string (setting : Setting) {text : String}
    (plain : ∀ c ∈ text.toList, quoteChar c = [c]) :
    ReadsAs setting (quoted text).toList (.value (.string text)) := by
  intro s store behind ahead _
  have inside : ∀ c ∈ text.toList, (c != '"') = true := by
    intro c member
    refine bne_iff_ne.mpr ?_
    rintro rfl
    cases plain '"' member
  have shown : (quoted text).toList = '"' :: text.toList ++ ['"'] := by
    have same : text.toList.flatMap quoteChar = text.toList := by
      rw [List.flatMap_congr plain, List.flatMap_singleton']
    rw [quoted, same, String.toList_ofList]
  have read : readString s.cursor '"' =
      .ok (text, ⟨s.cursor.pos + (quoted text).toList.length, behind⟩) := by
    have parts : s.cursor.ahead.drop 1 = text.toList ++ '"' :: behind := by
      rw [ahead, shown]
      simp
    have taken : (text.toList ++ '"' :: behind).takeWhile (· != '"') = text.toList := by
      rw [List.takeWhile_append_of_pos inside, List.takeWhile_cons_of_neg (by decide),
        List.append_nil]
    have left : (text.toList ++ '"' :: behind).dropWhile (· != '"') = '"' :: behind := by
      rw [List.dropWhile_append_of_pos inside, List.dropWhile_cons_of_neg (by decide)]
    simp only [readString, parts, taken, left, String.ofList_toList, shown, List.length_append,
      List.length_cons, List.length_nil, Nat.add_assoc]
  have opened : s.cursor.ahead = '"' :: (text.toList ++ '"' :: behind) := by
    rw [ahead, shown]
    simp
  have produced : Action.ofExcept (readString s.cursor '"') store =
      (.ok (text, ⟨s.cursor.pos + (quoted text).toList.length, behind⟩), store) := by
    rw [Action.ofExcept_apply, read]
  simp only [step, opened]
  exact Action.bind_of_ok produced

/-- A token that can be read back is read as itself. -/
theorem readsAs_text {setting : Setting} {token : Token} (legible : token.Legible setting.home)
    (shown : Store) : ReadsAs setting (token.text shown).toList token := by
  cases token with
  | operator op => exact readsAs_operator setting op
  | label l =>
    obtain ⟨scope, name⟩ := l
    obtain ⟨rfl, identifier⟩ := legible
    exact readsAs_label setting identifier
  | value v =>
    cases v with
    | string s => exact readsAs_string setting legible
    | number n => exact legible.elim
    | bool b => exact legible.elim
    | array items => exact legible.elim
    | range r => exact legible.elim
    | routine r => exact legible.elim
    | scope id => exact legible.elim

/-! ## Rows -/

theorem statement_add (s : Scanner) (token : Token) (cursor : Cursor) :
    (s.add token cursor).statement = s.statement.push token :=
  Row.statement_push s.row token

theorem run_end {s : Scanner} (ahead : s.cursor.ahead = []) (outermost : s.levels = [])
    (setting : Setting) (store : Store) : s.run setting store = (.ok s.statement, store) := by
  have ended : s.step setting store = (.ok (.done s.statement), store) := by
    simp only [step, ahead, outermost]
    rfl
  rw [run_eq]
  exact Action.bind_of_ok ended

/-- Outside all brackets, printed tokens are read to the end and added one after the other. -/
theorem run_printed {setting : Setting} (shown store : Store) {tokens : List Token} :
    ∀ {s : Scanner}, (∀ token ∈ tokens, token.Legible setting.home) → s.levels = [] →
      s.cursor.ahead = [' '].intercalate (tokens.map fun token => (token.text shown).toList) →
      s.run setting store = (.ok (tokens.foldl Statement.push s.statement), store) := by
  induction tokens with
  | nil => exact fun _ outermost ahead => run_end ahead outermost setting store
  | cons token rest ih =>
    intro s legible outermost ahead
    obtain ⟨first, later⟩ := List.forall_mem_cons.mp legible
    cases rest with
    | nil =>
      rw [List.map_singleton, List.intercalate_singleton] at ahead
      have stepped := readsAs_text first shown s store [] (by simpa using ahead) (by simp)
      rw [run_of_step stepped, List.foldl_cons, ← statement_add]
      exact ih later outermost rfl
    | cons second others =>
      rw [List.map_cons, List.map_cons, List.intercalate_cons_cons, List.append_assoc] at ahead
      have stepped := readsAs_text first shown s store _ ahead (by simp)
      rw [run_of_step stepped, run_of_step (step_blank rfl setting store), List.foldl_cons,
        ← statement_add]
      exact ih later outermost rfl

end Scanner

theorem Statement.foldl_push (tokens : List Token) (st : Statement) :
    tokens.foldl push st = st.append (.ofTokens tokens) := by
  induction tokens generalizing st with
  | nil => simp [Statement.append, ofTokens]
  | cons token rest ih =>
    rw [List.foldl_cons, ih, Statement.append, Statement.append, ofTokens, ofTokens, Statement.push,
      Token.filterMap_operator?_cons]
    simp

/-- Printed statements are read back.  A statement that lists its own operators, and whose tokens are
operators, names of the scope that are identifiers, and strings without escapes, in any order, is
printed to a text that is read as the same statement, in every store, which stays as it is. -/
theorem printed_statements_read_back (home : ScopeId) (st : Statement) (shown store : Store)
    (mirrored : st.Mirrored) (legible : ∀ token ∈ st.tokens, token.Legible home) :
    parse home (st.text shown) store = (.ok st, store) := by
  let start : Scanner := ⟨.ofText (st.text shown).toList 0, .empty, []⟩
  have ahead : start.cursor.ahead =
      [' '].intercalate (st.tokens.map fun token => (token.text shown).toList) := by
    simp [start, Cursor.ofText, Statement.text, String.toList_intercalate, Function.comp_def]
  have scanned : scan ⟨home, defaultMaxDepth⟩ (.ofText (st.text shown).toList 0) store =
      (.ok st, store) := by
    refine (Scanner.run_printed shown store legible rfl ahead).trans ?_
    rw [Statement.foldl_push, ← mirrored.eq_ofTokens]
    rfl
  have read : (Draft.new home defaultMaxDepth).read (st.text shown) store =
      (.ok ⟨⟨home, defaultMaxDepth⟩, st⟩, store) := Action.bind_of_ok scanned
  exact Action.bind_of_ok read

/-- Tokens in no sensible order, with a quote of the other kind in a string and a name that has no
value. -/
theorem printed_statements_read_back_disorder :
    let tokens : List Token := [.operator .declare, .operator .equal, .operator .sub,
      .value (.string "it's"), .label ⟨⟨0⟩, "a_1"⟩, .operator .unequal, .operator .separator]
    (Statement.ofTokens tokens).text .empty = "= == - \"it's\" a_1 != ," ∧
      parse ⟨0⟩ "= == - \"it's\" a_1 != ," .empty = (.ok (.ofTokens tokens), .empty) := by
  intro tokens
  have text : (Statement.ofTokens tokens).text .empty = "= == - \"it's\" a_1 != ," := by
    decide +kernel
  have plain : ∀ c ∈ "it's".toList, quoteChar c = [c] := fun c member =>
    eq_of_beq (List.all_eq_true.mp (by decide : "it's".toList.all (fun c => quoteChar c == [c])) c
      member)
  have identifier : IsIdentifier "a_1" :=
    ⟨'a', ['_', '1'], rfl, by decide, List.all_eq_true.mp (by decide)⟩
  have legible : ∀ token ∈ tokens, token.Legible ⟨0⟩ := by
    simp only [tokens, List.forall_mem_cons, Token.Legible, true_and]
    exact ⟨plain, identifier, List.forall_mem_nil _⟩
  have read := printed_statements_read_back ⟨0⟩ (.ofTokens tokens) .empty .empty rfl legible
  rw [text] at read
  exact ⟨text, read⟩

end Scriptlet
