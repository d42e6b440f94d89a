import Scriptlet.Proofs.Mirroring
set_option autoImplicit false

/-!
# Statements that can be chained

Whether a separator may be added to a statement is decided by counting: there must be one token more
than twice the operators, and the last operator must not be a separator.  Evaluation decides by the
grammar whether a statement is complete.  The two agree for most statements but not for all: a sign
is an operator without an operand on its left, so that a statement with signs has too few tokens;
and where a separator is followed by a single operand, it is still the last operator.  These are the
only complete statements that cannot be chained.
-/

namespace Scriptlet

/-! ## Signs in a row -/

/-- The operators that have no operand on their left, in a row that stands behind an operator or at
the start (`true`), or behind an operand (`false`). -/
def signsBehind : Bool → List Token → List Operator
  | _, [] => []
  | true, .operator op :: rest => op :: signsBehind true rest
  | false, .operator _ :: rest => signsBehind true rest
  | _, _ :: rest => signsBehind false rest

/-- The signs of a row: the operators at its start or directly behind another operator. -/
def signsOf (tokens : List Token) : List Operator := signsBehind true tokens

theorem signsBehind_operand (x : Operand) (start : Bool) (rest : List Token) :
    signsBehind start (x.token :: rest) = signsBehind false rest := by
  cases x <;> cases start <;> rfl

/-- In a grounded chain, the tokens and the signs together are one more than twice the operators:
every place but those in front of signs has its operand. -/
theorem length_groundedFrom {links : List (Operator × Option Operand)} :
    ∀ {before : Option Operator} {place : Option Operand}, GroundedFrom before place links →
      let tokens := placeTokens place ++ linkTokens links
      tokens.length + (signsOf tokens).length = 2 * links.length + 1 := by
  induction links with
  | nil =>
    intro before place grounded
    obtain ⟨x, rfl⟩ := Option.isSome_iff_exists.mp grounded
    simp [linkTokens, signsOf, signsBehind_operand, signsBehind]
  | cons link links ih =>
    intro before place grounded
    obtain ⟨op, right⟩ := link
    have later := ih grounded.2
    simp only [List.length_append] at later
    cases place with
    | some x =>
      simp only [placeTokens_some, linkTokens, signsOf, List.singleton_append, signsBehind_operand,
        signsBehind, List.length_cons, List.length_append] at later ⊢
      omega
    | none =>
      simp only [placeTokens_none, linkTokens, signsOf, List.nil_append, signsBehind,
        List.length_cons, List.length_append] at later ⊢
      omega

theorem Grammatical.length_eq {tokens : List Token} (grammatical : Grammatical tokens) :
    tokens.length + (signsOf tokens).length =
      2 * (tokens.filterMap Token.operator?).length + 1 := by
  obtain ⟨c, rfl, grounded⟩ := grammatical.exists_chain
  rw [c.filterMap_tokens, Chain.operators, List.length_map]
  exact length_groundedFrom grounded

/-! ## Adding a separator -/

namespace Statement

/-- A separator at the end of the tokens is also the last operator that is listed. -/
theorem Mirrored.endsInSeparator {st : Statement} (mirrored : st.Mirrored) :
    (st.tokens.getLast?.any Token.isSeparator || st.operators.getLast? == some .separator) =
      (st.operators.getLast? == some .separator) := by
  cases last : st.tokens.getLast? with
  | none => rfl
  | some token =>
    cases separates : token.isSeparator with
    | false => simp [separates]
    | true =>
      obtain ⟨front, row⟩ := List.getLast?_eq_some_iff.mp last
      have operator : token.operator? = some .separator := by
        cases token with
        | value v => cases separates
        | label l => cases separates
        | operator op => exact congrArg some (eq_of_beq separates)
      rw [mirrored, row, List.filterMap_append, List.filterMap_cons_some operator]
      simp

/-- What chaining a statement with values comes to. -/
theorem chain_of_evaluate {st : Statement} (mirrored : st.Mirrored) {store after : Store}
    {values : List Value} (evaluated : st.evaluate store = (.ok values, after))
    (some_value : values ≠ []) :
    st.chain =
      if st.operators.getLast? = some .separator then .error .chainTwice
      else if signsOf st.tokens ≠ [] then
        .error (.chainIncomplete st.tokens.length st.operators.length)
      else .ok (st.push (.operator .separator)) := by
  rcases grammatical_of_evaluate mirrored evaluated with ⟨_, none⟩ | ⟨grammatical, _⟩
  · exact absurd (List.length_eq_zero_iff.mp none) some_value
  have counted := grammatical.length_eq
  rw [← mirrored] at counted
  have nonempty : st.tokens.isEmpty = false := by
    cases row : st.tokens with
    | nil =>
      rw [row] at counted
      simp only [signsOf, signsBehind, List.length_nil] at counted
      omega
    | cons token rest => rfl
  have complete : st.tokens.length = 2 * st.operators.length + 1 ↔ signsOf st.tokens = [] := by
    rw [← List.length_eq_zero_iff]
    omega
  rw [chain, nonempty, mirrored.endsInSeparator]
  simp only [Bool.false_eq_true, if_false, beq_iff_eq, ne_eq, complete]

end Statement

/-! ## Drafts -/

/-- A draft whose statement has values can be chained, except in two cases.  After any edits, if the
statement of the draft is evaluated in some store and has at least one value, then adding a
separator fails if the last operator is a separator, and otherwise exactly if there is a sign among
the operators; in every other case it succeeds. -/
theorem chain_of_evaluated (home : ScopeId) (maxDepth : Nat)
    (edits : List (Draft.Edit × Store)) (store after : Store) (values : List Value)
    (evaluated : ((Draft.new home maxDepth).editAll edits).statement.evaluate store =
      (.ok values, after))
    (some_value : values ≠ []) :
    let draft := (Draft.new home maxDepth).editAll edits
    let st := draft.statement
    draft.chain =
      if st.operators.getLast? = some .separator then .error .chainTwice
      else if signsOf st.tokens ≠ [] then
        .error (.chainIncomplete st.tokens.length st.operators.length)
      else .ok { draft with statement := st.push (.operator .separator) } := by
  intro draft st
  have mirrored : st.Mirrored := Draft.mirrored_editAll edits Statement.mirrored_empty
  have chains := Statement.chain_of_evaluate mirrored evaluated some_value
  rw [Draft.chain, chains]
  split
  · rfl
  split
  · rfl
  · rfl

/-- Three statements that have values: `'a', 'b' == 'c'` can be chained, `-1` has a sign, and in
`'a'` chained and followed by `'b'` the last operator is the separator between them. -/
theorem chain_of_evaluated_signs :
    let start := Draft.new ⟨0⟩ 1
    let store := Store.empty
    let compared : Draft := ⟨start.setting, [.value (.string "a"), .operator .separator,
      .value (.string "b"), .operator .equal, .value (.string "c")], [.separator, .equal]⟩
    let signed : Draft := ⟨start.setting, [.operator .sub, .value (.number 1.0)], [.sub]⟩
    let single : Draft := ⟨start.setting, [.value (.string "a"), .operator .separator,
      .value (.string "b")], [.separator]⟩
    start.editAll [(.read "'a', 'b' == 'c'", store)] = compared ∧
    compared.statement.evaluate store = (.ok [.string "a", .bool false], store) ∧
    compared.chain = .ok { compared with
      statement := compared.statement.push (.operator .separator) } ∧
    start.editAll [(.read "-1", store)] = signed ∧
    signed.statement.evaluate store = (.ok [.number (-1.0)], store) ∧
    signed.chain = .error (.chainIncomplete 2 1) ∧
    start.editAll [(.read "'a'", store), (.chain, store), (.read "'b'", store)] = single ∧
    single.statement.evaluate store = (.ok [.string "a", .string "b"], store) ∧
    single.chain = .error .chainTwice := by
  intro start store compared signed single
  have chains {edits : List (Draft.Edit × Store)} {draft : Draft} {values : List Value}
      (made : start.editAll edits = draft)
      (evaluated : draft.statement.evaluate store = (.ok values, store))
      (some_value : values ≠ []) :
      draft.chain =
        if draft.statement.operators.getLast? = some .separator then .error .chainTwice
        else if signsOf draft.statement.tokens ≠ [] then
          .error (.chainIncomplete draft.statement.tokens.length draft.statement.operators.length)
        else .ok { draft with statement := draft.statement.push (.operator .separator) } := by
    subst made
    exact chain_of_evaluated ⟨0⟩ 1 edits store store values evaluated some_value
  have first : start.editAll [(.read "'a', 'b' == 'c'", store)] = compared := by cbv
  have second : start.editAll [(.read "-1", store)] = signed := by
    -- Number literals are left to the kernel.
    have steps : Scanner.Reaches start.setting (⟨.ofText "-1".toList 0, .empty, []⟩, store)
        (⟨⟨2, []⟩, ⟨[.value (.number 1.0), .operator .sub], [.sub]⟩, []⟩, store) :=
      .step rfl (.step rfl (.refl _))
    have scanned : scan start.setting (.ofText "-1".toList 0) store =
        (.ok signed.statement, store) := by
      refine steps.run_eq.trans ?_
      rw [Scanner.run_eq]
      rfl
    have read : start.read "-1" store = (.ok signed, store) := Action.bind_of_ok scanned
    simp only [Draft.editAll, List.foldl, Draft.edit, Draft.Edit.apply, read]
  have third : start.editAll [(.read "'a'", store), (.chain, store), (.read "'b'", store)] =
      single := by cbv
  have compared_values : compared.statement.evaluate store =
      (.ok [.string "a", .bool false], store) := by cbv
  have signed_values : signed.statement.evaluate store = (.ok [.number (-1.0)], store) := by rfl
  have single_values : single.statement.evaluate store =
      (.ok [.string "a", .string "b"], store) := by cbv
  exact ⟨first, compared_values, chains first compared_values (by simp), second, signed_values,
    chains second signed_values (by simp), third, single_values,
    chains third single_values (by simp)⟩

/-- Not every complete statement can be chained: the text `'a', 'b'` is read and has two values, but
no separator can be added. -/
theorem complete_not_chained :
    ¬ ∀ (home : ScopeId) (maxDepth : Nat) (source : String) (store between after : Store)
        (draft : Draft) (values : List Value),
      (Draft.new home maxDepth).read source store = (.ok draft, between) →
      draft.statement.evaluate between = (.ok values, after) → values ≠ [] →
      ∃ chained, draft.chain = .ok chained := by
  intro claimed
  let row : List Token := [.value (.string "a"), .operator .separator, .value (.string "b")]
  let draft : Draft := ⟨⟨⟨0⟩, 1⟩, row, [.separator]⟩
  have read : (Draft.new ⟨0⟩ 1).read "'a', 'b'" Store.empty = (.ok draft, Store.empty) := by cbv
  have evaluated : draft.statement.evaluate Store.empty =
      (.ok [.string "a", .string "b"], Store.empty) := by cbv
  obtain ⟨chained, chains⟩ := claimed ⟨0⟩ 1 _ _ _ _ draft _ read evaluated (by simp)
  have refused : draft.chain = .error .chainTwice := rfl
  rw [refused] at chains
  cases chains

end Scriptlet
