import Scriptlet.Json.Text
set_option autoImplicit false

/-!
# JSON: documents

A document is first cut into lexemes and then put together by a builder that takes one lexeme at a
time and keeps the arrays and objects that are still open on a stack.  A builder that refuses a
lexeme refuses the document.
-/

namespace Scriptlet

/-- A JSON value.  Of numbers only the natural ones without point and exponent keep their value,
and a string in which a surrogate stands alone has no text. -/
inductive Json where
  | null
  | bool (b : Bool)
  | natural (n : Nat)
  | otherNumber
  | string (text : Option String)
  | array (items : List Json)
  | object (members : List (Option String × Json))

namespace Json

/-! ## Lexemes -/

/-- A word of a document. -/
inductive Lexeme where
  | openBrace
  | closeBrace
  | openBracket
  | closeBracket
  | colon
  | comma
  /-- a value that is one word -/
  | atom (value : Json)

/-- At least one digit, and what follows the digits. -/
def readDigits? (chars : List Char) : Option (List Char × List Char) :=
  let digits := chars.takeWhile Char.isDigit
  if digits.isEmpty then none else some (digits, chars.dropWhile Char.isDigit)

/-- The digits before the point: a zero alone, or digits that do not start with a zero. -/
def readWhole? : List Char → Option (List Char × List Char)
  | '0' :: rest => some (['0'], rest)
  | chars => readDigits? chars

/-- An optional point with digits after it; the first part tells whether it is there. -/
def readFraction? : List Char → Option (Bool × List Char)
  | '.' :: rest => (readDigits? rest).map fun (_, after) => (true, after)
  | chars => some (false, chars)

/-- An optional exponent; the first part tells whether it is there. -/
def readExponent? : List Char → Option (Bool × List Char)
  | c :: rest =>
    if c = 'e' ∨ c = 'E' then
      let digits :=
        match rest with
        | '+' :: after => after
        | '-' :: after => after
        | _ => rest
      (readDigits? digits).map fun (_, after) => (true, after)
    else some (false, c :: rest)
  | [] => some (false, [])

/-- A number without its sign. -/
def readMagnitude? (negative : Bool) (chars : List Char) : Option (Json × List Char) := do
  let (whole, rest) ← readWhole? chars
  let (fraction, rest) ← readFraction? rest
  let (exponent, rest) ← readExponent? rest
  if negative || fraction || exponent then return (.otherNumber, rest)
  else return (.natural (whole.foldl (fun n c => 10 * n + (c.toNat - '0'.toNat)) 0), rest)

/-- A number. -/
def readNumber? : List Char → Option (Json × List Char)
  | '-' :: rest => readMagnitude? true rest
  | chars => readMagnitude? false chars

/-- The lexeme at the start of a text that does not start with white space, and what follows. -/
def readLexeme? : List Char → Option (Lexeme × List Char)
  | '\x7b' :: rest => some (.openBrace, rest)
  | '\x7d' :: rest => some (.closeBrace, rest)
  | '[' :: rest => some (.openBracket, rest)
  | ']' :: rest => some (.closeBracket, rest)
  | ':' :: rest => some (.colon, rest)
  | ',' :: rest => some (.comma, rest)
  | '"' :: rest =>
    (readPieces rest).map fun (pieces, after) =>
      (.atom (.string ((joinPieces pieces).map String.ofList)), after)
  | 'n' :: 'u' :: 'l' :: 'l' :: rest => some (.atom .null, rest)
  | 't' :: 'r' :: 'u' :: 'e' :: rest => some (.atom (.bool true), rest)
  | 'f' :: 'a' :: 'l' :: 's' :: 'e' :: rest => some (.atom (.bool false), rest)
  | chars => (readNumber? chars).map fun (number, after) => (.atom number, after)

/-- White space between lexemes. -/
def isSpace (c : Char) : Bool := c == ' ' || c == '\n' || c == '\t' || c == '\r'

/-! ### Progress -/

theorem readDigits?_shorter {chars digits after : List Char}
    (read : readDigits? chars = some (digits, after)) : after.length < chars.length := by
  unfold readDigits? at read
  simp only at read
  split at read
  · cases read
  · rename_i nonempty
    cases read
    have whole := congrArg List.length (List.takeWhile_append_dropWhile (p := Char.isDigit)
      (l := chars))
    have := List.length_pos_iff.mpr (by simpa using nonempty :
      chars.takeWhile Char.isDigit ≠ [])
    simp only [List.length_append] at whole
    omega

theorem readWhole?_shorter {chars digits after : List Char}
    (read : readWhole? chars = some (digits, after)) : after.length < chars.length := by
  unfold readWhole? at read
  split at read
  · cases read; simp
  · exact readDigits?_shorter read

theorem readFraction?_length {chars after : List Char} {there : Bool}
    (read : readFraction? chars = some (there, after)) : after.length ≤ chars.length := by
  unfold readFraction? at read
  split at read
  · obtain ⟨⟨digits, rest⟩, found, same⟩ := Option.map_eq_some_iff.mp read
    cases same
    have := readDigits?_shorter found
    simp only [List.length_cons]
    omega
  · cases read; exact Nat.le_refl _

theorem readExponent?_length {chars after : List Char} {there : Bool}
    (read : readExponent? chars = some (there, after)) : after.length ≤ chars.length := by
  unfold readExponent? at read
  split at read
  · split at read
    · obtain ⟨⟨digits, rest⟩, found, same⟩ := Option.map_eq_some_iff.mp read
      cases same
      have := readDigits?_shorter found
      split at this <;> simp only [List.length_cons] at * <;> omega
    · cases read; exact Nat.le_refl _
  · cases read; exact Nat.le_refl _

theorem readMagnitude?_shorter {negative : Bool} {chars after : List Char} {number : Json}
    (read : readMagnitude? negative chars = some (number, after)) :
    after.length < chars.length := by
  simp only [readMagnitude?, Option.bind_eq_bind] at read
  obtain ⟨⟨whole, rest₁⟩, h₁, read⟩ := Option.bind_eq_some_iff.mp read
  obtain ⟨⟨fraction, rest₂⟩, h₂, read⟩ := Option.bind_eq_some_iff.mp read
  obtain ⟨⟨exponent, rest₃⟩, h₃, read⟩ := Option.bind_eq_some_iff.mp read
  have l₁ := readWhole?_shorter h₁
  have l₂ := readFraction?_length h₂
  have l₃ := readExponent?_length h₃
  simp only at read l₁ l₂ l₃
  split at read <;> cases read <;> omega

theorem readNumber?_shorter {chars after : List Char} {number : Json}
    (read : readNumber? chars = some (number, after)) : after.length < chars.length := by
  unfold readNumber? at read
  split at read
  · have := readMagnitude?_shorter read
    simp only [List.length_cons]
    omega
  · exact readMagnitude?_shorter read

theorem readLexeme?_shorter {chars after : List Char} {lexeme : Lexeme}
    (read : readLexeme? chars = some (lexeme, after)) : after.length < chars.length := by
  unfold readLexeme? at read
  split at read
  case h_7 =>
    obtain ⟨⟨pieces, rest⟩, found, same⟩ := Option.map_eq_some_iff.mp read
    cases same
    have := readPieces_shorter found
    simp only [List.length_cons]
    omega
  case h_11 =>
    obtain ⟨⟨number, rest⟩, found, same⟩ := Option.map_eq_some_iff.mp read
    cases same
    exact readNumber?_shorter found
  all_goals
    cases read
    simp only [List.length_cons]
    omega

/-- The lexemes of a text. -/
def lexemes? (chars : List Char) : Option (List Lexeme) :=
  match chars with
  | [] => some []
  | c :: rest =>
    if isSpace c then lexemes? rest
    else
      match _read : readLexeme? (c :: rest) with
      | none => none
      | some (lexeme, after) => (lexemes? after).map (lexeme :: ·)
termination_by chars.length
decreasing_by
  · simp
  · exact readLexeme?_shorter _read

/-! ## Building -/

/-- An array or object that is still open, with what it holds so far, last item first. -/
inductive Frame where
  | array (items : List Json)
  | object (members : List (Option String × Json)) (key : Option String)

/-- What may come next. -/
inductive Expecting where
  /-- a value -/
  | value
  /-- a value, or the end of the array that has just been opened -/
  | firstItem
  /-- the name of a member -/
  | key (members : List (Option String × Json))
  /-- the name of a member, or the end of the object that has just been opened -/
  | firstKey
  /-- the colon after the name of a member -/
  | colon (members : List (Option String × Json)) (key : Option String)
  /-- a comma or the end of the innermost frame, or the end of the document; the value that was
  read last is still to be put into the frame -/
  | next (value : Json)

/-- A document half read. -/
structure Builder where
  frames : List Frame
  expecting : Expecting

/-- Before the first lexeme. -/
def Builder.start : Builder := ⟨[], .value⟩

/-- Takes a lexeme that starts a value. -/
def Builder.takeValue (frames : List Frame) : Lexeme → Option Builder
  | .atom value => some ⟨frames, .next value⟩
  | .openBracket => some ⟨frames, .firstItem⟩
  | .openBrace => some ⟨frames, .firstKey⟩
  | _ => none

/-- Takes the name of a member. -/
def Builder.takeKey (frames : List Frame) (members : List (Option String × Json)) :
    Lexeme → Option Builder
  | .atom (.string key) => some ⟨frames, .colon members key⟩
  | _ => none

/-- Takes what follows a value: a comma, or the end of the innermost frame. -/
def Builder.takeNext (value : Json) : List Frame → Lexeme → Option Builder
  | .array items :: frames, .comma => some ⟨.array (value :: items) :: frames, .value⟩
  | .array items :: frames, .closeBracket =>
    some ⟨frames, .next (.array (value :: items).reverse)⟩
  | .object members key :: frames, .comma => some ⟨frames, .key ((key, value) :: members)⟩
  | .object members key :: frames, .closeBrace =>
    some ⟨frames, .next (.object ((key, value) :: members).reverse)⟩
  | _, _ => none

/-- Takes one lexeme. -/
def Builder.take (b : Builder) (lexeme : Lexeme) : Option Builder :=
  match b.expecting, lexeme with
  | .value, _ => takeValue b.frames lexeme
  | .firstItem, .closeBracket => some ⟨b.frames, .next (.array [])⟩
  | .firstItem, _ => takeValue (.array [] :: b.frames) lexeme
  | .firstKey, .closeBrace => some ⟨b.frames, .next (.object [])⟩
  | .firstKey, _ => takeKey b.frames [] lexeme
  | .key members, _ => takeKey b.frames members lexeme
  | .colon members key, .colon => some ⟨.object members key :: b.frames, .value⟩
  | .colon _ _, _ => none
  | .next value, _ => takeNext value b.frames lexeme

/-- The document, if it is complete. -/
def Builder.finish? : Builder → Option Json
  | ⟨[], .next value⟩ => some value
  | _ => none

/-- The value a text encodes. -/
def ofText? (text : String) : Option Json := do
  let lexemes ← lexemes? text.toList
  let builder ← lexemes.foldlM Builder.take .start
  builder.finish?

/-! ## Records -/

/-- The fields of a record: the members of an object with these names, none twice and others
ignored, or the items of an array in the order of the names, from the first on. -/
def recordFields? (names : List String) : Json → Option (List (String × Json))
  | .object members =>
    match members.mapM (m := Option) fun (key, value) => key.map fun k => (k, value) with
    | none => none
    | some named =>
      let fields := named.filter fun field => names.contains field.1
      if (fields.map Prod.fst).eraseDups.length = fields.length then some fields else none
  | .array items => if items.length ≤ names.length then some (names.zip items) else none
  | _ => none

/-- The text a value encodes. -/
def asText? : Json → Option String
  | .string text => text
  | _ => none

/-- The natural number below `limit` that a value encodes. -/
def asNatural? (limit : Nat) : Json → Option Nat
  | .natural n => if n < limit then some n else none
  | _ => none

/-- The name of a choice without data: a string, or an object with that one name and no value. -/
def asChoice? : Json → Option String
  | .string text => text
  | .object [(key, .null)] => key
  | _ => none

end Json

end Scriptlet
