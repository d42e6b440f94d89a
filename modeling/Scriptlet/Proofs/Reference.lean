import Mathlib.Data.List.Permutation
import Scriptlet.Proofs.Acceptance
import Scriptlet.Proofs.Precedence
set_option autoImplicit false

/-!
# What a stream means

A stream has a meaning that speaks of its syntax and not of passes over a row.  First every
comparison with an operator in it becomes the value of its precedence tree, all of them in the store
at the start.  Then the declarations of all segments are carried out from left to right.  At last
every segment gives one value, and the labels that are still there are read in the store after all
declarations.  Evaluation agrees with that meaning.
-/

namespace Scriptlet

/-! ## The meaning of a stream -/

namespace Joined

variable {kind : Operator → Bool} {α β : Type}

/-- The things that are joined, from left to right. -/
def parts (x : Joined kind α) : List α := x.head :: x.tail.map Prod.snd

/-- The same joints between what becomes of the things, which are visited from left to right. -/
def mapM {m : Type → Type} [Monad m] (f : α → m β) (x : Joined kind α) : m (Joined kind β) := do
  let head ← f x.head
  let tail ← x.tail.mapM fun link => do return (link.1, ← f link.2)
  return ⟨head, tail⟩

theorem mapM_cons {m : Type → Type} [Monad m] [LawfulMonad m] (f : α → m β) (a b : α)
    (op : OperatorOf kind) (rest : List (OperatorOf kind × α)) :
    mapM f ⟨a, (op, b) :: rest⟩ = do
      let first ← f a
      let x ← mapM f ⟨b, rest⟩
      return ⟨first, (op, x.head) :: x.tail⟩ := by
  simp [mapM]

theorem chain_cons (part : α → Chain β) (a b : α) (op : OperatorOf kind)
    (rest : List (OperatorOf kind × α)) :
    chain part ⟨a, (op, b) :: rest⟩ = (part a).join op.val (chain part ⟨b, rest⟩) := rfl

theorem parts_mapM {m : Type → Type} [Monad m] [LawfulMonad m] (f : α → m β)
    (x : Joined kind α) : parts <$> x.mapM f = x.parts.mapM f := by
  obtain ⟨a, rest⟩ := x
  induction rest generalizing a with
  | nil => simp [mapM, parts]
  | cons link rest ih =>
    have later := ih link.2
    simp only [parts, List.map_cons] at later ⊢
    rw [mapM_cons, List.mapM_cons, ← later]
    simp [parts]

theorem toOption_mapM (f : α → Except Fault β) (x : Joined kind α) :
    (x.mapM f).toOption = x.mapM fun a => (f a).toOption := by
  obtain ⟨a, rest⟩ := x
  induction rest generalizing a with
  | nil =>
    simp only [mapM, List.mapM_nil]
    cases f a <;> rfl
  | cons link rest ih =>
    rw [mapM_cons, mapM_cons, ← ih link.2]
    cases f a with
    | error fault => rfl
    | ok b => cases mapM f ⟨link.2, rest⟩ <;> rfl

end Joined

/-- The operands of an item with the operators between them; a sign has zero on its left. -/
def Item.chain (item : Item) : Chain Operand :=
  let links := item.body.tail.map fun link => (link.1.val, link.2)
  match item.sign with
  | none => ⟨item.body.head, links⟩
  | some sign => ⟨.zero, (sign.val, item.body.head) :: links⟩

/-- The operands of a comparison with the operators between them. -/
def Comparison.chain (c : Comparison) : Chain Operand := Joined.chain Item.chain c

/-- The operand a tree comes to: itself if it is one, and otherwise its value. -/
def Tree.settle (store : Store) : Tree → Except Fault Operand
  | leaf x => .ok x
  | node op left right => Operand.value <$> (node op left right).eval store

/-- What a comparison comes to: a token that stands alone is kept as it is. -/
def Comparison.settle (store : Store) (c : Comparison) : Except Fault Operand :=
  c.chain.tree.settle store

/-- A segment whose comparisons have been evaluated: a target and the operands that are declared. -/
abbrev Declarations : Type := Joined Operator.isDeclaration Operand

/-- The segments of a stream whose comparisons have been evaluated. -/
abbrev Settled : Type := Joined Operator.isSeparator Declarations

/-- The first phase: the comparisons of all segments, in one store. -/
def Stream.settle (store : Store) (s : Stream) : Except Fault Settled :=
  Joined.mapM (Joined.mapM (Comparison.settle store)) s

/-- Carries out declarations with one target.  The right side of each is read at its turn. -/
def declareAll (target : Operand) :
    List (OperatorOf Operator.isDeclaration × Operand) → Action Operand
  | [] => return target
  | (op, right) :: rest =>
    match target with
    | .value _ => .fail (.notName op.val)
    | .label l => do
      let value ← Action.ask right.token.resolved
      let _ ← Mutation.commit ⟨l, op.val, value⟩
      declareAll target rest

/-- The second phase for one segment; what remains is its target. -/
def Declarations.run (d : Declarations) : Action Operand := declareAll d.head d.tail

/-- The second phase: the declarations of all segments.  What remains are the targets. -/
def Settled.run (x : Settled) : Action (List Operand) := (Joined.parts x).mapM Declarations.run

/-- The third phase: what the targets hold. -/
def readAll (targets : List Operand) (store : Store) : Except Fault (List Value) :=
  targets.mapM fun x => x.token.resolved store

/-- The first two phases. -/
def Stream.targets (s : Stream) : Action (List Operand) := do
  let segments ← Action.ask fun store => s.settle store
  Settled.run segments

/-- The value of every segment of a stream. -/
def Stream.evaluate (s : Stream) : Action (List Value) := do
  let targets ← s.targets
  Action.ask (readAll targets)

/-! ## Passes that compute -/

/-- What an operator finds at a place: where nothing stands it is a sign, and finds zero. -/
def fill (place : Option Operand) : Operand := place.getD .zero

/-- An operator that computes reads the store, and gives the value of its operands. -/
theorem combine_eq_operate {op : Operator} (above : 10 < op.priority) {left : Option Operand}
    (signed : left.isSome = true ∨ op.isSign = true) (right : Operand) (next : Option Operator)
    (store : Store) :
    ∃ result, combine op left (some right) next store = (result, store) ∧
      result.toOption = (operate store op (fill left) right).map .value := by
  have taken : leftToken? op left = some (fill left).token := by
    cases left with
    | some l => rfl
    | none =>
      rcases signed with absent | sign
      · cases absent
      · simp [leftToken?, fill, sign]
  have computes : op.isDeclaration = false := by
    cases declares : op.isDeclaration with
    | false => rfl
    | true =>
      rw [op.isDeclaration_iff] at declares
      omega
  simp only [combine, taken, Action.bind_apply, Action.ask_apply, evaluate_value computes, operate]
  cases (fill left).token.resolved store with
  | error fault => exact ⟨.error fault, rfl, rfl⟩
  | ok a =>
    cases right.token.resolved store with
    | error fault => exact ⟨.error fault, rfl, rfl⟩
    | ok b =>
      simp only [bind, Except.bind, Except.toOption, Option.bind]
      cases op.apply a b with
      | error fault => exact ⟨.error fault, rfl, rfl⟩
      | ok v => exact ⟨.ok (.value v), rfl, rfl⟩

/-- A pass that computes leaves the store and does what reducing the operands does. -/
theorem passFrom_eq_reduceFrom {level : Int} (above : 10 < level) (store : Store)
    {links : List (Operator × Option Operand)} :
    ∀ {before : Option Operator} {place : Option Operand},
      (∀ op ∈ links.map Prod.fst, op.priority ≤ level) → GroundedFrom before place links →
      ∃ result, passFrom level place links store = (result, store) ∧
        result.toOption.map (Chain.map fill) =
          reduceFrom store level (fill place) (links.map fun link => (link.1, fill link.2)) := by
  induction links with
  | nil =>
    intro before place _ _
    exact ⟨.ok ⟨place, []⟩, rfl, rfl⟩
  | cons link rest ih =>
    obtain ⟨op, right⟩ := link
    intro before place bounded grounded
    have later : ∀ op ∈ rest.map Prod.fst, op.priority ≤ level :=
      fun op member => bounded op (by simp_all)
    rw [List.map_cons, passFrom]
    by_cases mine : op.priority = level
    · have present : right.isSome = true := grounded.2.present (mine ▸ later)
      obtain ⟨r, rfl⟩ := Option.isSome_iff_exists.mp present
      obtain ⟨result, combined, value⟩ := combine_eq_operate (mine ▸ above)
        (grounded.1.imp id And.left) r (rest.head?.map Prod.fst) store
      rw [if_pos mine, reduceFrom_of_eq mine]
      cases result with
      | error fault =>
        refine ⟨.error fault, Action.bind_of_error combined, ?_⟩
        rw [show operate store op (fill place) (fill (some r)) = none from
          Option.map_eq_none_iff.mp value.symm]
        rfl
      | ok x =>
        obtain ⟨v, hv, rfl⟩ := Option.map_eq_some_iff.mp value.symm
        have next : GroundedFrom before (some (.value v)) rest := grounded.2.of_some
        obtain ⟨result, passed, reduced⟩ := ih later next
        refine ⟨result, (Action.bind_of_ok combined).trans passed, ?_⟩
        rw [reduced, show operate store op (fill place) (fill (some r)) = some v from hv]
        rfl
    · rw [if_neg mine, reduceFrom_of_ne mine]
      obtain ⟨result, passed, reduced⟩ := ih later grounded.2
      rw [← reduced]
      cases result with
      | error fault => exact ⟨.error fault, Action.bind_of_error passed, rfl⟩
      | ok c => exact ⟨.ok ⟨place, (op, c.head) :: c.tail⟩, Action.bind_of_ok passed, rfl⟩

/-- Passes that compute leave the store and do what reducing the operands does. -/
theorem Chain.passes_eq_reduces {levels rest : List Int} (h : Descending (levels ++ rest))
    (above : ∀ level ∈ levels, 10 < level) (store : Store) :
    ∀ {c : Chain (Option Operand)}, c.Awaits (levels ++ rest) → c.Grounded none →
      ∃ result, c.passes levels store = (result, store) ∧
        result.toOption.map (Chain.map fill) = (c.map fill).reduces store levels ∧
        ∀ d, result = .ok d → d.Awaits rest ∧ d.Grounded none := by
  induction levels with
  | nil =>
    intro c awaits grounded
    refine ⟨.ok c, rfl, rfl, fun d same => ?_⟩
    cases same
    exact ⟨awaits, grounded⟩
  | cons level levels ih =>
    intro c awaits grounded
    have bounded := awaits.below h
    obtain ⟨result, passed, reduced⟩ :=
      passFrom_eq_reduceFrom (above level (by simp)) store bounded grounded
    have kept := (grounded_passFrom (h.applied level (by simp)) store bounded grounded).1
    rw [reduces, show (c.map fill).reduce store level = _ from reduced.symm]
    cases result with
    | error fault => exact ⟨.error fault, Action.bind_of_error passed, rfl, by simp⟩
    | ok d =>
      obtain ⟨result, rest, same, final⟩ :=
        ih h.tail (fun other member => above other (by simp [member])) (awaits.pass passed)
          (kept d store passed)
      exact ⟨result, (Action.bind_of_ok passed).trans rest, same, final⟩

/-! ## The first phase -/

theorem Tree.toOption_settle (store : Store) (t : Tree) :
    (t.settle store).toOption = t.settle? store := by
  cases t with
  | leaf x => rfl
  | node op left right =>
    simp only [settle, settle?, value?]
    cases (node op left right).eval store <;> rfl

theorem Chain.map_joinAll {α β : Type} (f : α → β) (rest : List (Operator × Chain α)) :
    ∀ c : Chain α, (c.joinAll rest).map f =
      (c.map f).joinAll (rest.map fun link => (link.1, link.2.map f)) := by
  induction rest with
  | nil =>
    intro c
    rfl
  | cons link rest ih =>
    intro c
    rw [joinAll, map_join, ih]
    rfl

theorem Joined.map_chain {kind : Operator → Bool} {α β γ : Type} (f : β → γ) (part : α → Chain β)
    (x : Joined kind α) : (x.chain part).map f = x.chain fun a => (part a).map f := by
  rw [chain, Chain.map_joinAll, chain, List.map_map]
  rfl

theorem Item.fill_places (item : Item) : item.places.map fill = item.chain := by
  obtain ⟨sign, body⟩ := item
  cases sign <;> simp [places, chain, Chain.map, fill]

/-- The operands of a stream with the operators between them. -/
def Stream.chain (s : Stream) : Chain Operand := Joined.chain (Joined.chain Comparison.chain) s

theorem Stream.fill_places (s : Stream) : s.places.map fill = s.chain := by
  have comparison (c : Comparison) : c.places.map fill = c.chain := by
    rw [Comparison.places, Joined.map_chain, funext Item.fill_places, Comparison.chain]
  have segment (s : Segment) : s.places.map fill = Joined.chain Comparison.chain s := by
    rw [Segment.places, Joined.map_chain, funext comparison]
  rw [Stream.places, Joined.map_chain, funext segment, Stream.chain]

theorem Joined.operators_chain {kind : Operator → Bool} {α β : Type} {part : α → Chain β}
    {P : Operator → Prop} (joints : ∀ op, kind op = true → P op)
    (inside : ∀ a, ∀ op ∈ (part a).operators, P op) (x : Joined kind α) :
    ∀ op ∈ (x.chain part).operators, P op := by
  obtain ⟨a, rest⟩ := x
  induction rest generalizing a with
  | nil => exact inside a
  | cons link rest ih =>
    rw [chain_cons, Chain.operators_join, List.forall_mem_append, List.forall_mem_cons]
    exact ⟨inside a, joints link.1.val link.1.property, ih link.2⟩

/-- What is joined by operators that are not applied is reduced part by part. -/
theorem Joined.reduces_chain {kind : Operator → Bool} {α β : Type} {store : Store}
    {levels : List Int} {part : α → Chain Operand} {f : α → Option β} {result : β → Chain Operand}
    (joints : ∀ op, kind op = true → op.priority ∉ levels)
    (inside : ∀ a, (part a).reduces store levels = (f a).map result) (x : Joined kind α) :
    (x.chain part).reduces store levels = (x.mapM f).map (Joined.chain result) := by
  obtain ⟨a, rest⟩ := x
  induction rest generalizing a with
  | nil =>
    refine (inside a).trans ?_
    simp only [mapM, List.mapM_nil]
    cases f a <;> rfl
  | cons link rest ih =>
    rw [chain_cons, Chain.reduces_join levels (joints link.1.val link.1.property), inside a,
      ih link.2, mapM_cons]
    cases f a with
    | none => rfl
    | some b => cases mapM f ⟨link.2, rest⟩ <;> rfl

/-- The priorities of the operators that compute. -/
def computing : List Int := [60, 40, 30, 20, 15]

theorem priorities_eq : priorities = computing ++ [10] := rfl

theorem Item.operators_chain (item : Item) :
    ∀ op ∈ item.chain.operators, op.isArithmetic = true := by
  obtain ⟨sign, body⟩ := item
  have operands : ∀ op ∈ body.tail.map fun link => link.1.val, op.isArithmetic = true := by
    intro op member
    obtain ⟨link, _, rfl⟩ := List.mem_map.mp member
    exact link.1.property
  cases sign with
  | none => simpa [chain, Function.comp_def] using operands
  | some s =>
    have arithmetic : s.val.isArithmetic = true := s.val.isArithmetic_of_isSign s.property
    simpa [chain, Function.comp_def, arithmetic] using operands

/-- A comparison is reduced to what it comes to. -/
theorem Comparison.reduces_chain (store : Store) (c : Comparison) :
    c.chain.reduces store computing = ((c.settle store).toOption).map fun x => ⟨x, []⟩ := by
  rw [settle, Tree.toOption_settle]
  refine Chain.reduces_eq_tree (by decide) ?_
  refine Joined.operators_chain ?_ (fun item op member => ?_) c
  · intro op
    cases op <;> decide
  · have arithmetic := item.operators_chain op member
    revert arithmetic
    cases op <;> decide

/-- The operand alone. -/
def Chain.single (x : Operand) : Chain Operand := ⟨x, []⟩

/-- A stream is reduced to what the first phase makes of it. -/
theorem Stream.reduces_chain (store : Store) (s : Stream) :
    s.chain.reduces store computing =
      ((s.settle store).toOption).map (Joined.chain (Joined.chain Chain.single)) := by
  have segment (s : Segment) : (Joined.chain Comparison.chain s).reduces store computing =
      ((Joined.mapM (Comparison.settle store) s).toOption).map (Joined.chain Chain.single) := by
    rw [Joined.toOption_mapM]
    exact Joined.reduces_chain (fun op => by cases op <;> decide)
      (Comparison.reduces_chain store) s
  rw [settle, Joined.toOption_mapM]
  exact Joined.reduces_chain (fun op => by cases op <;> decide) segment s

/-! ## The second phase -/

/-- Applying a declaration reads its right side and carries out the write. -/
theorem combine_label {op : Operator} (declares : op.isDeclaration = true) (l : Label)
    (right : Operand) (next : Option Operator) :
    combine op (some (.label l)) (some right) next = do
      let value ← Action.ask right.token.resolved
      let _ ← Mutation.commit ⟨l, op, value⟩
      return .label l := by
  funext store
  simp only [combine, leftToken?, Action.bind_apply, Action.ask_apply,
    evaluate_declaration declares]
  cases right.token.resolved store <;> rfl

theorem combine_target_value {op : Operator} (declares : op.isDeclaration = true) (v : Value)
    (right : Operand) (next : Option Operator) :
    combine op (some (.value v)) (some right) next = .fail (.notName op) := by
  funext store
  simp only [combine, leftToken?, Action.bind_apply, Action.ask_apply,
    evaluate_notName declares, Action.fail_apply]

/-- The pass over the declarations of one segment carries them out. -/
theorem passFrom_declareAll (links : List (OperatorOf Operator.isDeclaration × Operand)) :
    ∀ target : Operand,
      passFrom 10 (some target) (links.map fun link => (link.1.val, some link.2)) =
        (fun x => ⟨some x, []⟩) <$> declareAll target links := by
  induction links with
  | nil =>
    intro target
    rfl
  | cons link rest ih =>
    obtain ⟨op, right⟩ := link
    intro target
    have mine : op.val.priority = 10 := op.val.isDeclaration_iff.mp op.property
    rw [List.map_cons, passFrom, if_pos mine]
    cases target with
    | value v =>
      rw [combine_target_value op.property, declareAll]
      rfl
    | label l =>
      rw [combine_label op.property, declareAll]
      simp only [bind_assoc, pure_bind, map_bind, ih]

theorem Declarations.chain_eq (d : Declarations) :
    Joined.chain Chain.single d = ⟨d.head, d.tail.map fun link => (link.1.val, link.2)⟩ := by
  obtain ⟨target, rest⟩ := d
  induction rest generalizing target with
  | nil => rfl
  | cons link rest ih =>
    rw [Joined.chain_cons, ih link.2]
    rfl

theorem Declarations.pass_chain (d : Declarations) :
    ((Joined.chain Chain.single d).map some).pass 10 =
      (fun x => (Chain.single x).map some) <$> d.run := by
  have links := passFrom_declareAll d.tail d.head
  rw [chain_eq, Chain.map, Chain.pass, List.map_map]
  exact links

/-- The pass over the declarations of all segments carries them out from left to right. -/
theorem pass_declarations (x : Settled) :
    ((Joined.chain (Joined.chain Chain.single) x).map some).pass 10 =
      (fun y => (Joined.chain Chain.single y).map some) <$> Joined.mapM Declarations.run x := by
  obtain ⟨d, rest⟩ := x
  induction rest generalizing d with
  | nil =>
    refine (Declarations.pass_chain d).trans ?_
    simp [Joined.mapM, Joined.chain, Chain.joinAll]
  | cons link rest ih =>
    have outside : link.1.val.priority ≠ 10 := by
      rw [link.1.val.isSeparator_iff.mp link.1.property]
      decide
    rw [Joined.chain_cons, Chain.map_join, Chain.pass_join outside, Declarations.pass_chain, ih,
      Joined.mapM_cons]
    simp [Joined.chain_cons]

/-! ## The third phase -/

theorem Joined.operands_chain {kind : Operator → Bool} (x : Joined kind Operand) :
    (x.chain Chain.single).operands = x.parts := by
  obtain ⟨a, rest⟩ := x
  induction rest generalizing a with
  | nil => rfl
  | cons link rest ih =>
    have later := ih link.2
    rw [chain_cons]
    simp only [Chain.operands, Chain.join, Chain.single, parts, List.nil_append, List.map_cons]
      at later ⊢
    rw [later]

/-- The values of segments that have come down to their targets. -/
theorem collect_targets (x : Joined Operator.isSeparator Operand) (store : Store) :
    collect ((x.chain Chain.single).map some).tokens store = readAll x.parts store := by
  rw [Chain.collect_operands, Joined.operands_chain, readAll]
  exact Joined.operators_chain (fun _ separates => separates) (by simp [Chain.single]) x

/-! ## Evaluation -/

/-- After the passes that compute, no place is empty. -/
theorem Chain.map_some_fill {c : Chain (Option Operand)} (awaits : c.Awaits [10])
    (grounded : c.Grounded none) : (c.map fill).map some = c := by
  have unsigned : ∀ op ∈ c.operators, op.isSign = false := by
    intro op member
    have waits := awaits op member
    revert waits
    cases op <;> decide
  obtain ⟨d, hd⟩ := GroundedFrom.exists_operands unsigned grounded
  rw [show c = d.map some from hd, map_map, map_map]
  rfl

/-- The passes that compute make the first phase. -/
theorem Stream.passes_computing (s : Stream) (store : Store) :
    ∃ result, s.places.passes computing store = (result, store) ∧
      result.toOption = (s.settle store).toOption.map fun x =>
        (Joined.chain (Joined.chain Chain.single) x).map some := by
  have descending : Descending (computing ++ [10]) := descending_priorities
  obtain ⟨result, passed, reduced, full⟩ :=
    Chain.passes_eq_reduces descending (by decide) store s.places.awaits_priorities
      (s.startsItem_places none (by simp))
  refine ⟨result, passed, ?_⟩
  rw [s.fill_places, s.reduces_chain] at reduced
  cases result with
  | error fault =>
    rw [Option.map_eq_none_iff.mp reduced.symm]
    rfl
  | ok d =>
    obtain ⟨awaits, grounded⟩ := full d rfl
    obtain ⟨x, hx, chain⟩ := Option.map_eq_some_iff.mp reduced.symm
    rw [hx, Option.map_some, chain, Chain.map_some_fill awaits grounded]
    rfl

theorem Chain.passes_append (first second : List Int) :
    ∀ c : Chain (Option Operand), c.passes (first ++ second) =
      c.passes first >>= fun d => d.passes second := by
  induction first with
  | nil =>
    intro c
    rw [passes, pure_bind]
    rfl
  | cons level first ih =>
    intro c
    rw [List.cons_append, passes, passes, bind_assoc]
    exact congrArg _ (funext ih)

/-- What evaluation does once the first phase is over. -/
theorem Settled.passes_declarations (x : Settled) :
    (((Joined.chain (Joined.chain Chain.single) x).map some).passes [10] >>= fun d =>
        Action.ask (collect d.tokens)) =
      x.run >>= fun targets => Action.ask (readAll targets) := by
  rw [Chain.passes, pass_declarations, run, ← Joined.parts_mapM]
  simp only [Chain.passes, bind_pure, bind_map_left, funext (collect_targets _)]

theorem Stream.evaluate_eq_passes (s : Stream) :
    (Statement.ofTokens s.tokens).evaluate = s.places.passes computing >>= fun d =>
      d.passes [10] >>= fun e => Action.ask (collect e.tokens) := by
  rw [Statement.ofTokens, ← s.tokens_places, Chain.filterMap_tokens, Chain.evaluate_eq_passes,
    priorities_eq, Chain.passes_append, bind_assoc]

theorem Stream.targets_of_settled {s : Stream} {store : Store} {x : Settled}
    (settled : s.settle store = .ok x) : s.targets store = x.run store :=
  Action.bind_of_ok (by rw [Action.ask_apply, settled])

theorem Stream.targets_of_unsettled {s : Stream} {store : Store} {fault : Fault}
    (unsettled : s.settle store = .error fault) : s.targets store = (.error fault, store) :=
  Action.bind_of_error (by rw [Action.ask_apply, unsettled])

/-- A fault of the first phase is a fault of the evaluation, and both leave the store. -/
theorem Stream.evaluate_of_unsettled {s : Stream} {store : Store} {fault : Fault}
    (unsettled : s.settle store = .error fault) :
    s.evaluate store = (.error fault, store) ∧
      ∃ other, (Statement.ofTokens s.tokens).evaluate store = (.error other, store) := by
  refine ⟨Action.bind_of_error (targets_of_unsettled unsettled), ?_⟩
  obtain ⟨result, passed, first⟩ := s.passes_computing store
  rw [unsettled] at first
  cases result with
  | ok d => cases first
  | error other =>
    refine ⟨other, ?_⟩
    rw [evaluate_eq_passes]
    exact Action.bind_of_error passed

/-- Once the first phase is over, evaluation and meaning are the same. -/
theorem Stream.evaluate_of_settled {s : Stream} {store : Store} {x : Settled}
    (settled : s.settle store = .ok x) :
    (Statement.ofTokens s.tokens).evaluate store = s.evaluate store := by
  obtain ⟨result, passed, first⟩ := s.passes_computing store
  rw [settled] at first
  cases result with
  | error fault => cases first
  | ok d =>
    have chain : d = (Joined.chain (Joined.chain Chain.single) x).map some :=
      Option.some.inj first
    rw [evaluate_eq_passes, Action.bind_of_ok passed, chain, Settled.passes_declarations,
      Stream.evaluate, Action.bind_apply, Action.bind_apply, targets_of_settled settled]

/-- A row gives values just when its stream does, and the same ones. -/
theorem Stream.evaluate_ok_iff {s : Stream} {store after : Store} {values : List Value} :
    (Statement.ofTokens s.tokens).evaluate store = (.ok values, after) ↔
      s.evaluate store = (.ok values, after) := by
  cases settled : s.settle store with
  | error fault =>
    obtain ⟨reference, other, failed⟩ := evaluate_of_unsettled settled
    rw [reference, failed]
    simp
  | ok x => rw [evaluate_of_settled settled]

/-- The evaluation of a statement of the form `seg (separator seg)*` is the meaning of the stream:
the same store is left, the same values are given, and none exactly when the meaning has none.  A
first phase without a fault leaves no difference at all, faults included. -/
theorem evaluate_eq_stream (st : Statement) (s : Stream) (store : Store) (mirrored : st.Mirrored)
    (shape : st.tokens = s.tokens) :
    (st.evaluate store).2 = (s.evaluate store).2 ∧
    (st.evaluate store).1.toOption = (s.evaluate store).1.toOption ∧
    ((s.settle store).isOk = true → st.evaluate store = s.evaluate store) := by
  rw [mirrored.eq_ofTokens, shape]
  cases settled : s.settle store with
  | error fault =>
    obtain ⟨reference, other, failed⟩ := Stream.evaluate_of_unsettled settled
    rw [reference, failed]
    exact ⟨rfl, rfl, fun ok => by cases ok⟩
  | ok x =>
    rw [Stream.evaluate_of_settled settled]
    exact ⟨rfl, rfl, fun _ => rfl⟩

/-- In `a = true, a == true` the comparison reads the store from before the declaration. -/
theorem evaluate_eq_stream_reads_first :
    let store := (Store.empty.newInstance [("a", .bool false)]).2
    let a : Operand := .label ⟨⟨0⟩, "a"⟩
    let item (x : Operand) : Item := ⟨none, ⟨x, []⟩⟩
    let s : Stream :=
      ⟨⟨⟨item a, []⟩, [(⟨.declare, rfl⟩, ⟨item (.value (.bool true)), []⟩)]⟩,
        [(⟨.separator, rfl⟩, ⟨⟨item a, [(⟨.equal, rfl⟩, item (.value (.bool true)))]⟩, []⟩)]⟩
    let st := Statement.ofTokens s.tokens
    st.Mirrored ∧ (st.evaluate store).1.toOption = some [.bool true, .bool false] := by
  intro store a item s st
  have agrees := evaluate_eq_stream st s store rfl rfl
  refine ⟨rfl, agrees.2.1.trans ?_⟩
  cbv

end Scriptlet
