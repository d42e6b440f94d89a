import Scriptlet.CommandLine
import Scriptlet.Proofs.Scripts
set_option autoImplicit false

/-!
# The JSON form of diagnostics

A diagnostic written as JSON is read back as it was, whatever its message holds.  The argument
follows the layers of the reader: each character of a string is escaped to a piece that stands for
it, a string and a number are one lexeme each whatever comes behind them, and the lexemes of the
whole object are put together to its three fields.  No control character is left in the written
form, so it never breaks the line it is printed on.
-/

namespace Scriptlet

namespace Json

/-! ## Pieces of strings -/

/-- One more piece in front of what was read. -/
def inFront (piece : Piece) (read : List Piece × List Char) : List Piece × List Char :=
  (piece :: read.1, read.2)

theorem readPieces_letter {letter c : Char} (other : letter ≠ 'u')
    (stands : escapedChar? letter = some c) (rest : List Char) :
    readPieces ('\\' :: letter :: rest) = (readPieces rest).map (inFront (.char c)) := by
  rw [readPieces.eq_4 _ _ fun _ _ _ _ _ same => absurd same other, stands]
  cases readPieces rest <;> rfl

theorem readPieces_unit {a b c d : Char} {n : Nat} (digits : unitValue? a b c d = some n)
    (rest : List Char) :
    readPieces ('\\' :: 'u' :: a :: b :: c :: d :: rest) =
      (readPieces rest).map (inFront (.unit n)) := by
  rw [readPieces.eq_3, digits]
  cases readPieces rest <;> rfl

theorem readPieces_plain {c : Char} (quote : c ≠ '"') (backslash : c ≠ '\\')
    (printed : ¬ c.toNat < 32) (rest : List Char) :
    readPieces (c :: rest) = (readPieces rest).map (inFront (.char c)) := by
  rw [readPieces.eq_5 _ _ quote (fun _ _ _ _ _ same => absurd same backslash)
    (fun _ _ same => absurd same backslash), if_neg (not_or.mpr ⟨backslash, printed⟩)]
  cases readPieces rest <;> rfl

/-- The piece that a written character is read as: a code unit for a control character without a
letter of its own, and the character itself otherwise. -/
def pieceOf (c : Char) : Piece :=
  if c.toNat < 32 ∧ c.toNat ∉ [8, 9, 10, 12, 13] then .unit c.toNat else .char c

/-- A control character is told by two digits. -/
theorem unitValue?_hexDigit :
    ∀ n < 32, unitValue? '0' '0' (hexDigit (n / 16)) (hexDigit (n % 16)) = some n := by
  decide

/-- A character with a letter of its own is given back by the letter. -/
theorem readPieces_lettered {letter c : Char} {n : Nat} (same : c.toNat = n)
    (lettered : n ∈ [8, 9, 10, 12, 13]) (other : letter ≠ 'u')
    (stands : escapedChar? letter = some (Char.ofNat n)) (rest : List Char) :
    readPieces ('\\' :: letter :: rest) = (readPieces rest).map (inFront (pieceOf c)) := by
  have piece : pieceOf c = .char (Char.ofNat n) := by
    rw [pieceOf, if_neg fun control => control.2 (same ▸ lettered), ← same, Char.ofNat_toNat]
  rw [piece, readPieces_letter other stands]

/-- A character is read back as its piece, whatever follows it. -/
theorem readPieces_escapeChar (c : Char) (rest : List Char) :
    readPieces (escapeChar c ++ rest) = (readPieces rest).map (inFront (pieceOf c)) := by
  unfold escapeChar
  split
  · rename_i same
    subst same
    exact readPieces_letter (by decide) rfl rest
  split
  · rename_i same
    subst same
    exact readPieces_letter (by decide) rfl rest
  split
  · rename_i same
    exact readPieces_lettered same (by decide) (by decide) rfl rest
  split
  · rename_i same
    exact readPieces_lettered same (by decide) (by decide) rfl rest
  split
  · rename_i same
    exact readPieces_lettered same (by decide) (by decide) rfl rest
  split
  · rename_i same
    exact readPieces_lettered same (by decide) (by decide) rfl rest
  split
  · rename_i same
    exact readPieces_lettered same (by decide) (by decide) rfl rest
  rename_i quote backslash n8 n9 n10 n12 n13
  split
  · rename_i control
    have piece : pieceOf c = .unit c.toNat := by
      rw [pieceOf, if_pos ⟨control, by simp [n8, n9, n10, n12, n13]⟩]
    rw [piece]
    exact readPieces_unit (unitValue?_hexDigit c.toNat control) rest
  · rename_i printed
    have piece : pieceOf c = .char c := by
      rw [pieceOf, if_neg fun control => printed control.1]
    rw [piece]
    exact readPieces_plain quote backslash printed rest

/-- So is a text, by its pieces from left to right. -/
theorem readPieces_flatMap (text rest : List Char) :
    readPieces (text.flatMap escapeChar ++ '"' :: rest) = some (text.map pieceOf, rest) := by
  induction text with
  | nil => rfl
  | cons c text ih =>
    rw [List.flatMap_cons, List.append_assoc, readPieces_escapeChar, ih]
    rfl

/-- The pieces of a text make up the text: none of its units is a surrogate. -/
theorem joinPieces_map (text : List Char) : joinPieces (text.map pieceOf) = some text := by
  induction text with
  | nil => rfl
  | cons c text ih =>
    rw [List.map_cons, pieceOf]
    split
    · rename_i control
      have small : c.toNat < 0xD800 ∨ 0xE000 ≤ c.toNat := .inl (by omega)
      unfold joinPieces
      rw [if_pos small, ih, Char.ofNat_toNat]
      rfl
    · rw [joinPieces, ih]
      rfl

/-! ## Lexemes -/

/-- A written string is one lexeme, whatever follows it. -/
theorem readLexeme?_quoteChars (text : String) (rest : List Char) :
    readLexeme? (quoteChars text.toList ++ rest) = some (.atom (.string (some text)), rest) := by
  rw [quoteChars, List.append_assoc, List.cons_append, readLexeme?, List.singleton_append,
    readPieces_flatMap]
  simp only [Option.map_some, joinPieces_map, String.ofList_toList]

/-- What can stand behind a whole number: no digit, no point and no exponent. -/
def EndsNumber (rest : List Char) : Prop :=
  ∀ c ∈ rest.head?, c.isDigit = false ∧ c ≠ '.' ∧ c ≠ 'e' ∧ c ≠ 'E'

theorem readDigits?_append {digits rest : List Char} (nonempty : digits ≠ [])
    (all : ∀ c ∈ digits, c.isDigit = true) (ends : EndsNumber rest) :
    readDigits? (digits ++ rest) = some (digits, rest) := by
  have taken : rest.takeWhile Char.isDigit = [] := by
    cases rest with
    | nil => rfl
    | cons c rest => rw [List.takeWhile_cons_of_neg (by simp [(ends c rfl).1])]
  have left : rest.dropWhile Char.isDigit = rest := by
    cases rest with
    | nil => rfl
    | cons c rest => rw [List.dropWhile_cons_of_neg (by simp [(ends c rfl).1])]
  rw [readDigits?, List.takeWhile_append_of_pos all, List.dropWhile_append_of_pos all, taken, left]
  simp [nonempty]

/-- A positive number is not written with a zero in front. -/
theorem exists_toDigits {n : Nat} (positive : 0 < n) :
    ∃ first more, Nat.toDigits 10 n = first :: more ∧ first ≠ '0' := by
  induction n using Nat.strongRecOn with
  | ind n ih =>
    by_cases small : n < 10
    · have all : ∀ n < 10, 0 < n → n.digitChar ≠ '0' := by decide
      exact ⟨n.digitChar, [], Nat.toDigits_of_lt_base small, all n small positive⟩
    · obtain ⟨first, more, written, other⟩ := ih (n / 10) (by omega) (by omega)
      refine ⟨first, more ++ [(n % 10).digitChar], ?_, other⟩
      rw [Nat.toDigits_of_base_le (by decide) (by omega), written, List.cons_append]

theorem readFraction?_of_ends {rest : List Char} (ends : EndsNumber rest) :
    readFraction? rest = some (false, rest) := by
  unfold readFraction?
  split
  · exact absurd rfl (ends '.' rfl).2.1
  · rfl

theorem readExponent?_of_ends {rest : List Char} (ends : EndsNumber rest) :
    readExponent? rest = some (false, rest) := by
  cases rest with
  | nil => rfl
  | cons c rest =>
    obtain ⟨_, _, lower, upper⟩ := ends c rfl
    exact if_neg (not_or.mpr ⟨lower, upper⟩)

/-- A positive number is one lexeme, whatever follows its digits. -/
theorem readLexeme?_toDigits {n : Nat} (positive : 0 < n) {rest : List Char}
    (ends : EndsNumber rest) :
    readLexeme? (Nat.toDigits 10 n ++ rest) = some (.atom (.natural n), rest) := by
  have digits : ∀ c ∈ Nat.toDigits 10 n, c.isDigit = true :=
    fun c => Nat.isDigit_of_mem_toDigits (by decide) (by decide)
  have value : (Nat.toDigits 10 n).foldl (fun n c => 10 * n + (c.toNat - '0'.toNat)) 0 = n := by
    rw [← Nat.ofDigitChars_eq_foldl, Nat.ofDigitChars_ten_toDigits]
  have read := readDigits?_append Nat.toDigits_ne_nil digits ends
  obtain ⟨first, more, written, other⟩ := exists_toDigits positive
  have digit : first.isDigit = true := digits first (by rw [written]; exact List.mem_cons_self)
  rw [written] at value read ⊢
  rw [List.cons_append] at read ⊢
  have whole : readWhole? (first :: (more ++ rest)) = some (first :: more, rest) := by
    rw [readWhole?.eq_2 _ fun _ same => other (List.cons.inj same).1, read]
  have number : readNumber? (first :: (more ++ rest)) = some (.natural n, rest) := by
    rw [readNumber?.eq_2 _ ?_, readMagnitude?, whole]
    · simp only [Option.bind_eq_bind, Option.bind_some, readFraction?_of_ends ends,
        readExponent?_of_ends ends, Bool.or_self, Bool.false_eq_true, if_false, value]
      rfl
    · rintro _ same
      rw [(List.cons.inj same).1] at digit
      cases digit
  rw [readLexeme?.eq_11, number, Option.map_some]
  -- None of the other lexemes starts with a digit.
  all_goals
    rintro _ same
    rw [(List.cons.inj same).1] at digit
    cases digit

/-- The lexeme at the start is the first one of the text. -/
theorem lexemes?_of_read {c : Char} {chars after : List Char} {lexeme : Lexeme}
    {more : List Lexeme} (read : readLexeme? (c :: chars) = some (lexeme, after))
    (first : isSpace c = false) (others : lexemes? after = some more) :
    lexemes? (c :: chars) = some (lexeme :: more) := by
  rw [lexemes?, if_neg (by simp [first])]
  split
  · rename_i failed
    rw [read] at failed
    cases failed
  · rename_i found
    rw [read] at found
    cases found
    rw [others, Option.map_some]

theorem lexemes?_quoteChars {text : String} {rest : List Char} {more : List Lexeme}
    (others : lexemes? rest = some more) :
    lexemes? (quoteChars text.toList ++ rest) = some (.atom (.string (some text)) :: more) :=
  lexemes?_of_read (readLexeme?_quoteChars text rest) rfl others

theorem lexemes?_toDigits {n : Nat} (positive : 0 < n) {rest : List Char} {more : List Lexeme}
    (ends : EndsNumber rest) (others : lexemes? rest = some more) :
    lexemes? (Nat.toDigits 10 n ++ rest) = some (.atom (.natural n) :: more) := by
  have read := readLexeme?_toDigits positive ends
  obtain ⟨first, tail, written, _⟩ := exists_toDigits positive
  have digit : first.isDigit = true :=
    Nat.isDigit_of_mem_toDigits (b := 10) (n := n) (by decide) (by decide)
      (by rw [written]; exact List.mem_cons_self)
  rw [written, List.cons_append] at read ⊢
  refine lexemes?_of_read read ?_ others
  cases space : isSpace first with
  | false => rfl
  | true =>
    simp only [isSpace, Bool.or_eq_true, beq_iff_eq] at space
    rcases space with ((rfl | rfl) | rfl) | rfl <;> cases digit

end Json

/-! ## Diagnostics -/

namespace Diagnostic

open Json

/-- The characters of the JSON form. -/
theorem toList_toJson (d : Diagnostic) :
    d.toJson.toList = '\x7b' :: (quoteChars "kind".toList ++ ':' ::
      (quoteChars d.kind.key.toList ++ ',' :: (quoteChars "code".toList ++ ':' ::
      (Nat.toDigits 10 d.code.number ++ ',' :: (quoteChars "message".toList ++ ':' ::
      (quoteChars d.message.toList ++ ['\x7d'])))))) := by
  have kind : "\x7b\"kind\":".toList = '\x7b' :: (quoteChars "kind".toList ++ [':']) := by decide
  have code : ",\"code\":".toList = ',' :: (quoteChars "code".toList ++ [':']) := by decide
  have message : ",\"message\":".toList = ',' :: (quoteChars "message".toList ++ [':']) := by
    decide
  simp only [toJson, Json.quote, Nat.repr_eq_ofList_toDigits, String.toList_append,
    String.toList_ofList, kind, code, message, List.append_assoc, List.cons_append,
    List.nil_append]
  rfl

/-- The lexemes of the JSON form. -/
theorem lexemes?_toJson (d : Diagnostic) : Json.lexemes? d.toJson.toList = some [.openBrace,
    .atom (.string (some "kind")), .colon, .atom (.string (some d.kind.key)), .comma,
    .atom (.string (some "code")), .colon, .atom (.natural d.code.number), .comma,
    .atom (.string (some "message")), .colon, .atom (.string (some d.message)), .closeBrace] := by
  have positive : 0 < d.code.number := Nat.lt_of_lt_of_le (by decide) d.code.bounds.1
  have ends (rest : List Char) : EndsNumber (',' :: rest) := by
    rintro c ⟨rfl⟩
    decide
  rw [toList_toJson]
  refine lexemes?_of_read rfl rfl (lexemes?_quoteChars (lexemes?_of_read rfl rfl ?_))
  refine lexemes?_quoteChars (lexemes?_of_read rfl rfl (lexemes?_quoteChars ?_))
  refine lexemes?_of_read rfl rfl (lexemes?_toDigits positive (ends _) ?_)
  refine lexemes?_of_read rfl rfl (lexemes?_quoteChars (lexemes?_of_read rfl rfl ?_))
  refine lexemes?_quoteChars (lexemes?_of_read rfl rfl ?_)
  rw [lexemes?]

/-- The object that the JSON form is put together to. -/
theorem ofText?_toJson (d : Diagnostic) : Json.ofText? d.toJson = some (.object
    [(some "kind", .string (some d.kind.key)), (some "code", .natural d.code.number),
      (some "message", .string (some d.message))]) := by
  rw [Json.ofText?, lexemes?_toJson]
  rfl

/-- A diagnostic is read back from its JSON form. -/
theorem ofJson?_toJson (d : Diagnostic) : ofJson? d.toJson = some d := by
  let read : List (String × Json) := [("kind", .string (some d.kind.key)),
    ("code", .natural d.code.number), ("message", .string (some d.message))]
  have fields : recordFields? ["kind", "code", "message"] (.object
      [(some "kind", .string (some d.kind.key)), (some "code", .natural d.code.number),
        (some "message", .string (some d.message))]) = some read := rfl
  have first : read.lookup "kind" = some (.string (some d.kind.key)) := rfl
  have second : read.lookup "code" = some (.natural d.code.number) := rfl
  have third : read.lookup "message" = some (.string (some d.message)) := rfl
  have number : asNatural? 65536 (.natural d.code.number) = some d.code.number :=
    if_pos (Nat.lt_of_le_of_lt d.code.bounds.2 (by decide))
  have code : Code.ofNat? d.code.number = some d.code := dif_pos d.code.bounds
  rw [ofJson?, ofText?_toJson, Option.bind_some, ofValue?, fields]
  simp [first, second, third, asChoice?, asText?, number, code, FaultKind.ofKey?_key]

end Diagnostic

/-! ## One line each -/

/-- No character is below the blank. -/
def Printed (chars : List Char) : Prop := ∀ c ∈ chars, 0x20 ≤ c.toNat

-- The instance goes through the list, not through all characters there are.
instance (chars : List Char) : Decidable (Printed chars) :=
  List.decidableBAll (fun c : Char => 0x20 ≤ c.toNat) chars

/-- A text without control characters. -/
def Unbroken (text : String) : Prop := Printed text.toList

instance (text : String) : Decidable (Unbroken text) :=
  inferInstanceAs (Decidable (Printed text.toList))

/-- The text is one line, with its line feed. -/
def IsLine (text : String) : Prop := textLines text = [text]

instance (text : String) : Decidable (IsLine text) :=
  inferInstanceAs (Decidable (textLines text = [text]))

namespace Unbroken

theorem append {first second : String} (left : Unbroken first) (right : Unbroken second) :
    Unbroken (first ++ second) := by
  intro c member
  rw [String.toList_append, List.mem_append] at member
  exact member.elim (left c) (right c)

theorem intercalate {separator : String} (between : Unbroken separator) {parts : List String}
    (each : ∀ part ∈ parts, Unbroken part) : Unbroken (separator.intercalate parts) := by
  induction parts with
  | nil =>
    rw [String.intercalate_nil]
    exact List.forall_mem_nil _
  | cons first parts ih =>
    obtain ⟨here, others⟩ := List.forall_mem_cons.mp each
    cases parts with
    | nil =>
      rw [String.intercalate_singleton]
      exact here
    | cons second parts =>
      rw [String.intercalate_cons_cons]
      exact (here.append between).append (ih others)

theorem repr (n : Nat) : Unbroken n.repr := by
  intro c member
  rw [Nat.repr_eq_ofList_toDigits, String.toList_ofList] at member
  have digit := Nat.isDigit_of_mem_toDigits (by decide) (by decide) member
  exact Nat.le_trans (by decide) (Char.isDigit_iff_toNat.mp digit).1

/-- A text without control characters that a line feed follows is one line. -/
theorem isLine {text : String} (unbroken : Unbroken text) : IsLine (text ++ "\n") := by
  have inside : ∀ c ∈ text.toList, (c == '\n') = false := by
    intro c member
    refine beq_false_of_ne ?_
    rintro rfl
    exact absurd (unbroken _ member) (by decide)
  by_cases empty : text = ""
  · rw [empty]
    decide
  · have nonempty : text.toList ≠ [] := by simpa using empty
    rw [IsLine, textLines, String.toList_append, splitAfter_append nonempty inside]
    simp [splitAfter]

end Unbroken

/-- Escaping leaves no control character. -/
theorem Json.printed_escapeChar (c : Char) : Printed (escapeChar c) := by
  have digits : ∀ n < 32,
      Printed ['\\', 'u', '0', '0', hexDigit (n / 16), hexDigit (n % 16)] := by
    decide
  unfold escapeChar
  split
  · decide
  split
  · decide
  split
  · decide
  split
  · decide
  split
  · decide
  split
  · decide
  split
  · decide
  split
  · rename_i control
    exact digits c.toNat control
  · rename_i printed
    rw [Printed, List.forall_mem_singleton]
    omega

theorem Json.unbroken_quote (text : String) : Unbroken (quote text) := by
  intro c member
  rw [quote, String.toList_ofList, quoteChars, List.mem_append, List.mem_cons, List.mem_flatMap,
    List.mem_singleton] at member
  rcases member with (rfl | ⟨source, _, escaped⟩) | rfl
  · decide
  · exact printed_escapeChar source c escaped
  · decide

theorem Diagnostic.unbroken_toJson (d : Diagnostic) : Unbroken d.toJson := by
  have kind : Unbroken "\x7b\"kind\":" := by decide
  have code : Unbroken ",\"code\":" := by decide
  have message : Unbroken ",\"message\":" := by decide
  have last : Unbroken "\x7d" := by decide
  have start := (kind.append (Json.unbroken_quote d.kind.key)).append code
  have middle := (start.append (Unbroken.repr d.code.number)).append message
  exact (middle.append (Json.unbroken_quote d.message)).append last

theorem Report.unbroken_toJson (r : Report) : Unbroken r.toJson := by
  have lines : Unbroken "\x7b\"lines\":" := by decide
  have failures : Unbroken ",\"failures\":[" := by decide
  have line : Unbroken "\x7b\"line\":" := by decide
  have error : Unbroken ",\"error\":" := by decide
  have close : Unbroken "\x7d" := by decide
  have comma : Unbroken "," := by decide
  have last : Unbroken "]\x7d" := by decide
  have start := (lines.append (.repr r.lines)).append failures
  refine (start.append (comma.intercalate ?_)).append last
  intro part member
  obtain ⟨⟨number, fault⟩, _, rfl⟩ := List.mem_map.mp member
  exact (((line.append (.repr number)).append error).append
    fault.diagnostic.unbroken_toJson).append close

/-- The failure of an expression is shown on one line. -/
theorem CommandLine.isLine_runExpression (options : Options) (expression : String)
    (failed : (runExpression { options with errorFormat := .json } expression).code = 1) :
    IsLine (runExpression { options with errorFormat := .json } expression).stderr := by
  unfold runExpression at failed ⊢
  simp only at failed ⊢
  split
  · rename_i done
    simp only [done] at failed
    cases failed
  · exact (Diagnostic.unbroken_toJson _).isLine

/-- Diagnostics survive their JSON form.  Whatever its kind, code and message, a diagnostic is read
back from the JSON that shows it; so one that was read from any text is read again from what it is
shown as.  The form holds no control character, and wherever a failure is shown in this form, by a
session, for an expression, for the line at which a script stops or in the report of a script, it
takes exactly one line. -/
theorem json_form_reads_back :
    (∀ d : Diagnostic, Diagnostic.ofJson? (ErrorFormat.json.render d) = some d) ∧
    (∀ (text : String) (d : Diagnostic), Diagnostic.ofJson? text = some d →
      Diagnostic.ofJson? (ErrorFormat.json.render d) = some d) ∧
    (∀ d : Diagnostic, ∀ c ∈ (ErrorFormat.json.render d).toList, 0x20 ≤ c.toNat) ∧
    ∀ (options : Options) (fault : Fault) (store : Store) (number : Nat) (report : Report)
      (expression : String),
      let json := { options with errorFormat := .json }
      IsLine (Console.answer json (.error fault) store) ∧
      ((CommandLine.runExpression json expression).code = 1 →
        IsLine (CommandLine.runExpression json expression).stderr) ∧
      IsLine (CommandLine.lineMessage json.errorFormat number fault) ∧
      IsLine (report.toJson ++ "\n") := by
  refine ⟨Diagnostic.ofJson?_toJson, fun _ d _ => d.ofJson?_toJson, Diagnostic.unbroken_toJson, ?_⟩
  intro options fault store number report expression json
  have shown := fault.diagnostic.unbroken_toJson
  have line : Unbroken "line " := by decide
  have colon : Unbroken ": " := by decide
  refine ⟨shown.isLine, CommandLine.isLine_runExpression options expression, ?_,
    report.unbroken_toJson.isLine⟩
  exact (((line.append (.repr number)).append colon).append shown).isLine

/-- A diagnostic whose kind does not own its code and whose message holds a quote, a backslash, a
line feed, another control character and a letter beyond the first plane: it is read from an object
with blanks, another order and a further member, and again from its own JSON form. -/
theorem json_form_reads_back_escapes :
    let d : Diagnostic := ⟨.parsing, ⟨380, by decide⟩, "\"\\\n\x01𝒜"⟩
    let text := "\x7b \"message\": \"\\\"\\\\\\n\\u0001\\ud835\\udc9c\", \"code\": 380,\n" ++
      "\"more\": [1.5, \x7b\x7d], \"kind\": \"parsing\" \x7d"
    Diagnostic.ofJson? text = some d ∧
    ErrorFormat.json.render d =
      "\x7b\"kind\":\"parsing\",\"code\":380,\"message\":\"\\\"\\\\\\n\\u0001𝒜\"\x7d" ∧
    Diagnostic.ofJson? (ErrorFormat.json.render d) = some d ∧
    (∃ c ∈ (ErrorFormat.json.render d).toList, c = '𝒜' ∧ 0x20 ≤ c.toNat) ∧
    (CommandLine.runExpression { errorFormat := .json } ")").code = 1 ∧
    IsLine (CommandLine.runExpression { errorFormat := .json } ")").stderr := by
  intro d text
  obtain ⟨_, again, printed, shown⟩ := json_form_reads_back
  have read : Diagnostic.ofJson? text = some d := by decide +kernel
  have failed : (CommandLine.runExpression { errorFormat := .json } ")").code = 1 := by
    decide +kernel
  have member : '𝒜' ∈ (ErrorFormat.json.render d).toList := by decide
  refine ⟨read, by decide, again text d read, ⟨'𝒜', member, rfl, printed d _ member⟩, failed, ?_⟩
  exact (shown {} .chainEmpty .empty 0 ⟨0, []⟩ ")").2.1 failed

end Scriptlet
