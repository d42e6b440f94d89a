import Scriptlet.Proofs.Chain
set_option autoImplicit false

/-!
# The grammar of statements

What a statement is built from, as syntax: items of operands and arithmetic, perhaps after a sign;
comparisons of items; segments, which are comparisons with declarations between them; and streams
of segments with separators between them.  Every stream is a row of tokens, and as a chain of places
it is *grounded*: an operand stands at every place, except in front of a sign that starts an item.
-/

namespace Scriptlet

/-! ## Kinds of operators -/

namespace Operator

/-- Whether the operator is the separator. -/
def isSeparator : Operator → Bool
  | separator => true
  | _ => false

/-- Whether the operator compares two values. -/
def isComparison : Operator → Bool
  | equal | unequal => true
  | _ => false

/-- Whether the operator makes a number of two numbers. -/
def isArithmetic : Operator → Bool
  | add | sub | mul | div | rem | pow => true
  | _ => false

/-- Whether the operator stands between two items of a segment. -/
def joinsItems (op : Operator) : Bool := op.isComparison || op.isDeclaration

theorem isArithmetic_iff (op : Operator) : op.isArithmetic = true ↔ 20 ≤ op.priority := by
  cases op <;> decide

theorem isArithmetic_eq_false_iff (op : Operator) :
    op.isArithmetic = false ↔ op.priority < 20 := by
  cases op <;> decide

theorem isSign_iff (op : Operator) : op.isSign = true ↔ op.priority = 20 := by
  cases op <;> decide

theorem isArithmetic_of_isSign (op : Operator) (sign : op.isSign = true) :
    op.isArithmetic = true := by
  have level := op.isSign_iff.mp sign
  exact op.isArithmetic_iff.mpr (Int.le_of_eq level.symm)

theorem isDeclaration_iff (op : Operator) : op.isDeclaration = true ↔ op.priority = 10 := by
  cases op <;> decide

theorem isSeparator_iff (op : Operator) : op.isSeparator = true ↔ op.priority = -10 := by
  cases op <;> decide

theorem isSeparator_iff_eq (op : Operator) : op.isSeparator = true ↔ op = .separator := by
  cases op <;> decide

/-- An operator stands inside an item, between two items, or between two segments. -/
theorem kinds (op : Operator) :
    op.isArithmetic = true ∨ op.joinsItems = true ∨ op.isSeparator = true := by
  cases op <;> decide

end Operator

/-- An operator of one kind. -/
abbrev OperatorOf (kind : Operator → Bool) : Type := { op : Operator // kind op = true }

/-! ## Syntax -/

/-- One or more things with operators of one kind between them. -/
structure Joined (kind : Operator → Bool) (α : Type) where
  head : α
  tail : List (OperatorOf kind × α)

/-- The row of things that are joined, each of which is a row. -/
def Joined.tokens {kind : Operator → Bool} {α : Type} (part : α → List Token)
    (x : Joined kind α) : List Token :=
  part x.head ++ x.tail.flatMap fun link => .operator link.1.val :: part link.2

/-- Operands with arithmetic between them, perhaps after a sign. -/
structure Item where
  sign : Option (OperatorOf Operator.isSign)
  body : Joined Operator.isArithmetic Operand

/-- The row of an item. -/
def Item.tokens (item : Item) : List Token :=
  (item.sign.map fun sign => Token.operator sign.val).toList ++
    item.body.tokens fun x => [x.token]

/-- Items that are compared. -/
abbrev Comparison : Type := Joined Operator.isComparison Item

/-- Comparisons with declarations between them. -/
abbrev Segment : Type := Joined Operator.isDeclaration Comparison

/-- Segments with separators between them. -/
abbrev Stream : Type := Joined Operator.isSeparator Segment

/-- The row of a comparison. -/
def Comparison.tokens (c : Comparison) : List Token := Joined.tokens Item.tokens c

/-- The row of a segment. -/
def Segment.tokens (s : Segment) : List Token := Joined.tokens Comparison.tokens s

/-- The row of a stream. -/
def Stream.tokens (s : Stream) : List Token := Joined.tokens Segment.tokens s

/-- Items with comparisons and declarations between them. -/
abbrev Clause : Type := Joined Operator.joinsItems Item

/-- The row of a clause. -/
def Clause.tokens (c : Clause) : List Token := Joined.tokens Item.tokens c

/-- The rows of the grammar: clauses with separators between them. -/
def Grammatical (tokens : List Token) : Prop :=
  ∃ clauses : Joined Operator.isSeparator Clause, clauses.tokens Clause.tokens = tokens

/-! ## Syntax as chains -/

/-- A chain followed by further ones. -/
def Chain.joinAll {α : Type} (c : Chain α) : List (Operator × Chain α) → Chain α
  | [] => c
  | (op, d) :: rest => c.join op (d.joinAll rest)

/-- The chain of things that are joined, each of which is a chain. -/
def Joined.chain {kind : Operator → Bool} {α β : Type} (part : α → Chain β)
    (x : Joined kind α) : Chain β :=
  (part x.head).joinAll (x.tail.map fun link => (link.1.val, part link.2))

/-- The places of an item.  Nothing stands in front of its sign. -/
def Item.places (item : Item) : Chain (Option Operand) :=
  let links := item.body.tail.map fun link => (link.1.val, some link.2)
  match item.sign with
  | none => ⟨some item.body.head, links⟩
  | some sign => ⟨none, (sign.val, some item.body.head) :: links⟩

/-- The places of a comparison. -/
def Comparison.places (c : Comparison) : Chain (Option Operand) := Joined.chain Item.places c

/-- The places of a segment. -/
def Segment.places (s : Segment) : Chain (Option Operand) := Joined.chain Comparison.places s

/-- The places of a stream. -/
def Stream.places (s : Stream) : Chain (Option Operand) := Joined.chain Segment.places s

theorem Chain.tokens_joinAll (rest : List (Operator × Chain (Option Operand))) :
    ∀ c : Chain (Option Operand), (c.joinAll rest).tokens =
      c.tokens ++ rest.flatMap fun link => .operator link.1 :: link.2.tokens := by
  induction rest with
  | nil =>
    intro c
    simp [joinAll]
  | cons link rest ih =>
    intro c
    obtain ⟨op, d⟩ := link
    rw [joinAll, tokens_join, ih d]
    simp

/-- The row of a joined chain is the row of what is joined. -/
theorem Joined.tokens_chain {kind : Operator → Bool} {α : Type} {row : α → List Token}
    {part : α → Chain (Option Operand)} (same : ∀ a, (part a).tokens = row a)
    (x : Joined kind α) : (x.chain part).tokens = x.tokens row := by
  rw [chain, Chain.tokens_joinAll, tokens, same, List.flatMap_map]
  simp [same]

theorem linkTokens_operands (links : List (OperatorOf Operator.isArithmetic × Operand)) :
    linkTokens (links.map fun link => (link.1.val, some link.2)) =
      links.flatMap fun link => [.operator link.1.val, link.2.token] := by
  induction links with
  | nil => rfl
  | cons link rest ih => simp [linkTokens, ih]

theorem Item.tokens_places (item : Item) : item.places.tokens = item.tokens := by
  obtain ⟨sign, body⟩ := item
  cases sign with
  | none => simp [places, tokens, Chain.tokens, Joined.tokens, linkTokens_operands]
  | some s => simp [places, tokens, Chain.tokens, Joined.tokens, linkTokens, linkTokens_operands]

/-- The places of a stream make its row. -/
theorem Stream.tokens_places (s : Stream) : s.places.tokens = s.tokens :=
  Joined.tokens_chain (Joined.tokens_chain (Joined.tokens_chain Item.tokens_places)) s

/-! ## Grounded chains -/

/-- An operand stands at every place, except that nothing may stand in front of a sign; then what
comes `before` the place must not be arithmetic. -/
def GroundedFrom (before : Option Operator) (place : Option Operand) :
    List (Operator × Option Operand) → Prop
  | [] => place.isSome = true
  | (op, right) :: rest =>
    (place.isSome = true ∨
      op.isSign = true ∧ ∀ earlier ∈ before, earlier.isArithmetic = false) ∧
    GroundedFrom (some op) right rest

/-- Whether operands are missing nowhere but in front of signs that start an item. -/
def Chain.Grounded (before : Option Operator) (c : Chain (Option Operand)) : Prop :=
  GroundedFrom before c.head c.tail

/-- What comes before a place matters only where nothing stands at it. -/
theorem GroundedFrom.of_some {x y : Operand} {links : List (Operator × Option Operand)}
    {before earlier : Option Operator} (grounded : GroundedFrom before (some x) links) :
    GroundedFrom earlier (some y) links := by
  cases links with
  | nil => rfl
  | cons link rest => exact ⟨.inl rfl, grounded.2⟩

/-- After an arithmetic operator, and after any operator that no sign follows, there is an
operand. -/
theorem GroundedFrom.isSome {op : Operator} {place : Option Operand}
    {links : List (Operator × Option Operand)} (grounded : GroundedFrom (some op) place links)
    (inside : op.isArithmetic = true ∨ ∀ next ∈ links.map Prod.fst, next.isSign = false) :
    place.isSome = true := by
  cases links with
  | nil => exact grounded
  | cons link rest =>
    rcases grounded.1 with here | ⟨sign, apart⟩
    · exact here
    · have outside := apart op rfl
      rcases inside with arithmetic | unsigned
      · rw [arithmetic] at outside
        cases outside
      · rw [unsigned link.1 (by simp)] at sign
        cases sign

theorem GroundedFrom.append {op : Operator} {right : Option Operand}
    {rest : List (Operator × Option Operand)} (tail : GroundedFrom (some op) right rest)
    {links : List (Operator × Option Operand)} :
    ∀ {before : Option Operator} {place : Option Operand}, GroundedFrom before place links →
      GroundedFrom before place (links ++ (op, right) :: rest) := by
  induction links with
  | nil =>
    intro before place grounded
    exact ⟨.inl grounded, tail⟩
  | cons link links ih =>
    intro before place grounded
    exact ⟨grounded.1, ih grounded.2⟩

/-- Grounded wherever no arithmetic comes before. -/
def Chain.StartsItem (c : Chain (Option Operand)) : Prop :=
  ∀ before : Option Operator, (∀ earlier ∈ before, earlier.isArithmetic = false) →
    c.Grounded before

theorem Chain.StartsItem.joinAll {rest : List (Operator × Chain (Option Operand))}
    (links : ∀ link ∈ rest, link.1.isArithmetic = false ∧ link.2.StartsItem) :
    ∀ {c : Chain (Option Operand)}, c.StartsItem → (c.joinAll rest).StartsItem := by
  induction rest with
  | nil =>
    intro c starts
    exact starts
  | cons link rest ih =>
    intro c starts before outside
    obtain ⟨joint, next⟩ := links link (by simp)
    have later := ih (fun l member => links l (by simp [member])) next
    exact GroundedFrom.append (later (some link.1) (by simpa using joint)) (starts before outside)

theorem Joined.startsItem_chain {kind : Operator → Bool} {α : Type}
    {part : α → Chain (Option Operand)} (outside : ∀ op, kind op = true → op.isArithmetic = false)
    (starts : ∀ a, (part a).StartsItem) (x : Joined kind α) : (x.chain part).StartsItem := by
  refine Chain.StartsItem.joinAll ?_ (starts x.head)
  intro link member
  obtain ⟨source, _, rfl⟩ := List.mem_map.mp member
  exact ⟨outside source.1.val source.1.property, starts source.2⟩

theorem groundedFrom_operands (links : List (OperatorOf Operator.isArithmetic × Operand)) :
    ∀ (before : Option Operator) (x : Operand),
      GroundedFrom before (some x) (links.map fun link => (link.1.val, some link.2)) := by
  induction links with
  | nil =>
    intro before x
    rfl
  | cons link rest ih =>
    intro before x
    exact ⟨.inl rfl, ih (some link.1.val) link.2⟩

theorem Item.startsItem_places (item : Item) : item.places.StartsItem := by
  obtain ⟨sign, body⟩ := item
  intro before outside
  cases sign with
  | none => exact groundedFrom_operands body.tail before body.head
  | some s =>
    exact ⟨.inr ⟨s.property, outside⟩, groundedFrom_operands body.tail (some s.val) body.head⟩

/-- Only the operators inside an item are arithmetic. -/
theorem isArithmetic_of_joint {op : Operator}
    (joint : op.joinsItems = true ∨ op.isSeparator = true) : op.isArithmetic = false := by
  revert joint
  cases op <;> decide

theorem Stream.startsItem_places (s : Stream) : s.places.StartsItem := by
  have comparison (c : Comparison) : c.places.StartsItem :=
    Joined.startsItem_chain
      (fun op h => isArithmetic_of_joint (.inl (by simp [Operator.joinsItems, h])))
      Item.startsItem_places c
  have segment (s : Segment) : s.places.StartsItem :=
    Joined.startsItem_chain
      (fun op h => isArithmetic_of_joint (.inl (by simp [Operator.joinsItems, h]))) comparison s
  exact Joined.startsItem_chain (fun op h => isArithmetic_of_joint (.inr h)) segment s

/-! ## Grounded chains are the grammar -/

/-- What can follow an operand: further operands of its item, further items of its clause, and
further clauses. -/
structure Continuation where
  operands : List (OperatorOf Operator.isArithmetic × Operand)
  items : List (OperatorOf Operator.joinsItems × Item)
  clauses : List (OperatorOf Operator.isSeparator × Clause)

namespace Continuation

/-- The row of a continuation. -/
def tokens (k : Continuation) : List Token :=
  (k.operands.flatMap fun link => [.operator link.1.val, link.2.token]) ++
    ((k.items.flatMap fun link => .operator link.1.val :: link.2.tokens) ++
      k.clauses.flatMap fun link => .operator link.1.val :: Clause.tokens link.2)

/-- The item that starts with a sign and an operand and goes on as the continuation does. -/
def item (k : Continuation) (sign : Option (OperatorOf Operator.isSign)) (x : Operand) : Item :=
  ⟨sign, ⟨x, k.operands⟩⟩

/-- An item with what follows it, after an operator that may start one. -/
theorem exists_startingItem (k : Continuation) {op : Operator} (joint : op.isArithmetic = false)
    (sign : Option (OperatorOf Operator.isSign)) (x : Operand) :
    ∃ longer : Continuation, longer.tokens =
      .operator op :: ((sign.map fun s => Token.operator s.val).toList ++
        x.token :: k.tokens) := by
  rcases op.kinds with arithmetic | joins | separates
  · rw [joint] at arithmetic
    cases arithmetic
  · refine ⟨⟨[], (⟨op, joins⟩, k.item sign x) :: k.items, k.clauses⟩, ?_⟩
    simp [tokens, item, Item.tokens, Joined.tokens]
  · refine ⟨⟨[], [], (⟨op, separates⟩, ⟨k.item sign x, k.items⟩) :: k.clauses⟩, ?_⟩
    simp [tokens, item, Item.tokens, Joined.tokens, Clause.tokens]

end Continuation

/-- What follows an operand in a grounded chain is a continuation. -/
theorem GroundedFrom.exists_continuation :
    ∀ {links : List (Operator × Option Operand)} {before : Option Operator} {x : Operand},
      GroundedFrom before (some x) links → ∃ k : Continuation, linkTokens links = k.tokens
  | [], _, _, _ => ⟨⟨[], [], []⟩, rfl⟩
  | (op, some y) :: rest, _, _, grounded => by
    obtain ⟨k, hk⟩ := exists_continuation grounded.2
    cases inside : op.isArithmetic with
    | true =>
      refine ⟨⟨(⟨op, inside⟩, y) :: k.operands, k.items, k.clauses⟩, ?_⟩
      simp [linkTokens, hk, Continuation.tokens]
    | false =>
      obtain ⟨longer, hlonger⟩ := k.exists_startingItem inside none y
      exact ⟨longer, by rw [hlonger, linkTokens, hk]; rfl⟩
  | (op, none) :: [], _, _, grounded => by
    cases grounded.2
  | (op, none) :: (sign, right) :: rest, _, _, grounded => by
    obtain ⟨_, start, inner⟩ := grounded
    rcases start with missing | ⟨isSign, outside⟩
    · cases missing
    · obtain ⟨y, rfl⟩ :=
        Option.isSome_iff_exists.mp (inner.isSome (.inl (sign.isArithmetic_of_isSign isSign)))
      obtain ⟨k, hk⟩ := exists_continuation inner
      obtain ⟨longer, hlonger⟩ := k.exists_startingItem (outside op rfl) (some ⟨sign, isSign⟩) y
      exact ⟨longer, by rw [hlonger, linkTokens, linkTokens, hk]; rfl⟩

/-- Grounded chains are rows of the grammar. -/
theorem Chain.Grounded.grammatical {c : Chain (Option Operand)} (grounded : c.Grounded none) :
    Grammatical c.tokens := by
  obtain ⟨head, tail⟩ := c
  cases head with
  | some x =>
    obtain ⟨k, hk⟩ := GroundedFrom.exists_continuation grounded
    refine ⟨⟨⟨k.item none x, k.items⟩, k.clauses⟩, ?_⟩
    simp [Chain.tokens, hk, Continuation.tokens, Continuation.item, Joined.tokens, Clause.tokens,
      Item.tokens]
  | none =>
    cases tail with
    | nil => cases grounded
    | cons link rest =>
      obtain ⟨sign, right⟩ := link
      obtain ⟨start, inner⟩ := grounded
      rcases start with missing | ⟨isSign, _⟩
      · cases missing
      · obtain ⟨y, rfl⟩ :=
          Option.isSome_iff_exists.mp (inner.isSome (.inl (sign.isArithmetic_of_isSign isSign)))
        obtain ⟨k, hk⟩ := GroundedFrom.exists_continuation inner
        refine ⟨⟨⟨k.item (some ⟨sign, isSign⟩) y, k.items⟩, k.clauses⟩, ?_⟩
        simp [Chain.tokens, linkTokens, hk, Continuation.tokens, Continuation.item, Joined.tokens,
          Clause.tokens, Item.tokens]

/-- Rows of the grammar are grounded chains. -/
theorem Grammatical.exists_chain {tokens : List Token} (grammatical : Grammatical tokens) :
    ∃ c : Chain (Option Operand), c.tokens = tokens ∧ c.Grounded none := by
  obtain ⟨clauses, rfl⟩ := grammatical
  have clause (c : Clause) : (Joined.chain Item.places c).StartsItem :=
    Joined.startsItem_chain (fun op h => isArithmetic_of_joint (.inl h)) Item.startsItem_places c
  refine ⟨clauses.chain (Joined.chain Item.places), ?_, ?_⟩
  · exact Joined.tokens_chain (Joined.tokens_chain Item.tokens_places) clauses
  · exact Joined.startsItem_chain (fun op h => isArithmetic_of_joint (.inr h)) clause clauses none
      (by simp)

/-! ## Clauses as segments -/

/-- A clause is a segment: its declarations part it into comparisons. -/
theorem Clause.exists_segment (c : Clause) : ∃ s : Segment, Segment.tokens s = Clause.tokens c := by
  obtain ⟨item, rest⟩ := c
  induction rest generalizing item with
  | nil =>
    refine ⟨⟨⟨item, []⟩, []⟩, ?_⟩
    simp [Segment.tokens, Comparison.tokens, Clause.tokens, Joined.tokens]
  | cons link rest ih =>
    obtain ⟨op, next⟩ := link
    obtain ⟨s, hs⟩ := ih next
    have extended : Clause.tokens ⟨item, (op, next) :: rest⟩ =
        item.tokens ++ .operator op.val :: Segment.tokens s := by
      rw [hs]
      simp [Clause.tokens, Joined.tokens]
    rw [extended]
    cases declares : op.val.isDeclaration with
    | true =>
      refine ⟨⟨⟨item, []⟩, (⟨op.val, declares⟩, s.head) :: s.tail⟩, ?_⟩
      simp [Segment.tokens, Comparison.tokens, Joined.tokens]
    | false =>
      have compares : op.val.isComparison = true := by
        have joins := op.property
        rw [Operator.joinsItems, declares, Bool.or_false] at joins
        exact joins
      refine ⟨⟨⟨item, (⟨op.val, compares⟩, s.head.head) :: s.head.tail⟩, s.tail⟩, ?_⟩
      simp [Segment.tokens, Comparison.tokens, Joined.tokens]

theorem Joined.exists_tokens {kind : Operator → Bool} {α β : Type} {row : α → List Token}
    {other : β → List Token} (same : ∀ a, ∃ b, other b = row a) (x : Joined kind α) :
    ∃ y : Joined kind β, y.tokens other = x.tokens row := by
  obtain ⟨a, rest⟩ := x
  obtain ⟨b, hb⟩ := same a
  induction rest generalizing a b with
  | nil => exact ⟨⟨b, []⟩, by simp [tokens, hb]⟩
  | cons link rest ih =>
    obtain ⟨op, c⟩ := link
    obtain ⟨d, hd⟩ := same c
    obtain ⟨y, hy⟩ := ih c d hd
    refine ⟨⟨b, (op, y.head) :: y.tail⟩, ?_⟩
    simp only [tokens, List.flatMap_cons] at hy ⊢
    rw [hb, List.cons_append, hy]
    simp

/-- Rows of the grammar are rows of streams. -/
theorem Grammatical.exists_stream {tokens : List Token} (grammatical : Grammatical tokens) :
    ∃ s : Stream, s.tokens = tokens := by
  obtain ⟨clauses, rfl⟩ := grammatical
  exact Joined.exists_tokens Clause.exists_segment clauses

end Scriptlet
