import Mathlib.Data.List.Forall2
import Scriptlet.Token
set_option autoImplicit false

/-!
# Stores up to renaming

Scopes and routines have identities, and what is made later gets the next one.  Two programs that do
the same in different stores therefore hold different identities.  A *world* says which identity of
the one store stands for which of the other, and along it values, tokens, scopes and whole stores
are related.  Related values are shown by the same text, compare alike and have the same type, so no
program can tell them apart.
-/

namespace Scriptlet

/-! ## Worlds -/

/-- Which identities of one store stand for which of another: scopes, those among them that a
program holds, as a value or as the scope it runs in, and routines.  What is printed counts from the
stores `origin` on. -/
structure World where
  known : ScopeId → ScopeId → Prop
  held : ScopeId → ScopeId → Prop
  routines : Nat → Nat → Prop
  origin : Store × Store

namespace World

/-- The world without identities. -/
def empty (origin : Store × Store) : World :=
  ⟨fun _ _ => False, fun _ _ => False, fun _ _ => False, origin⟩

/-- Whatever stands for something in the first world does so in the second. -/
structure Within (w later : World) : Prop where
  known : ∀ {i j}, w.known i j → later.known i j
  held : ∀ {i j}, w.held i j → later.held i j
  routines : ∀ {r q}, w.routines r q → later.routines r q

theorem Within.refl (w : World) : w.Within w := ⟨id, id, id⟩

theorem Within.trans {w later last : World} (first : w.Within later) (second : later.Within last) :
    w.Within last :=
  ⟨fun h => second.known (first.known h), fun h => second.held (first.held h),
    fun h => second.routines (first.routines h)⟩

end World

/-! ## Values -/

/-- Routines that behave alike and stand for one another. -/
structure Routine.Related (w : World) (a b : Routine) : Prop where
  id : w.routines a.id b.id
  behaviour : a.behaviour = b.behaviour

/-- Values that differ in identities only. -/
inductive Value.Related (w : World) : Value → Value → Prop where
  | number (n : Float) : Related w (.number n) (.number n)
  | bool (b : Bool) : Related w (.bool b) (.bool b)
  | string (s : String) : Related w (.string s) (.string s)
  | array {xs ys : List Value} (lengths : xs.length = ys.length)
      (items : ∀ a b, (a, b) ∈ xs.zip ys → Related w a b) : Related w (.array xs) (.array ys)
  | range (r : Range) : Related w (.range r) (.range r)
  | routine {a b : Routine} (same : a.Related w b) : Related w (.routine a) (.routine b)
  | scope {i j : ScopeId} (held : w.held i j) : Related w (.scope i) (.scope j)

/-- Lists of values that differ in identities only. -/
abbrev Value.AllRelated (w : World) : List Value → List Value → Prop :=
  List.Forall₂ (Value.Related w)

namespace Value

theorem related_array_iff {w : World} {xs ys : List Value} :
    Related w (.array xs) (.array ys) ↔ AllRelated w xs ys := by
  constructor
  · intro related
    cases related with
    | array lengths items => exact List.forall₂_iff_zip.mpr ⟨lengths, fun h => items _ _ h⟩
  · intro related
    obtain ⟨lengths, items⟩ := List.forall₂_iff_zip.mp related
    exact .array lengths fun a b member => items member

namespace Related

variable {w : World} {a b : Value}

theorem mono {later : World} (within : w.Within later) (related : Related w a b) :
    Related later a b := by
  induction related with
  | number n => exact .number n
  | bool b => exact .bool b
  | string s => exact .string s
  | array lengths _ ih => exact .array lengths ih
  | range r => exact .range r
  | routine same => exact .routine ⟨within.routines same.id, same.behaviour⟩
  | scope held => exact .scope (within.held held)

theorem typeName_eq (related : Related w a b) : a.typeName = b.typeName := by
  cases related <;> rfl

theorem asNumber_eq (related : Related w a b) : a.asNumber = b.asNumber := by
  cases related <;> rfl

theorem asInt_eq (related : Related w a b) : a.asInt = b.asInt := by
  rw [asInt, asInt, related.asNumber_eq]

theorem asBool_eq (related : Related w a b) : a.asBool = b.asBool := by
  cases related <;> rfl

theorem asString_eq (related : Related w a b) : a.asString = b.asString := by
  cases related <;> rfl

end Related

theorem AllRelated.mono {w later : World} (within : w.Within later) {xs ys : List Value}
    (related : AllRelated w xs ys) : AllRelated later xs ys :=
  related.imp fun _ _ h => h.mono within

end Value

/-! ## Scopes and stores -/

/-- The same names with values that differ in identities only. -/
abbrev EntriesRelated (w : World) : List (String × Value) → List (String × Value) → Prop :=
  List.Forall₂ fun p q => p.1 = q.1 ∧ Value.Related w p.2 q.2

/-- Scopes that differ in identities only. -/
structure Scope.Related (w : World) (a b : Scope) : Prop where
  label : a.label = b.label
  fixed : a.fixed = b.fixed
  entries : EntriesRelated w a.bindings.entries b.bindings.entries
  parent : Option.Rel w.known a.parent b.parent

/-- The output with this name, if it was opened. -/
def Store.output? (s : Store) : Output → Option Sink
  | .standard => some s.sink
  | .other index => s.others[index]?

/-- Writes lines one after the other. -/
def Sink.writeLines (sink : Sink) (lines : List String) : Sink := lines.foldl Sink.writeLine sink

/-- Stores whose known scopes differ in identities only and to whose outputs the same lines were
written.  Each identity stands for one other. -/
structure Store.Related (w : World) (s t : Store) : Prop where
  printed : ∀ output, ∃ lines,
    s.output? output = (w.origin.1.output? output).map (·.writeLines lines) ∧
      t.output? output = (w.origin.2.output? output).map (·.writeLines lines)
  scopes : ∀ {i j}, w.known i j →
    ∃ a b, s.scope? i = some a ∧ t.scope? j = some b ∧ Scope.Related w a b
  known_of_held : ∀ {i j}, w.held i j → w.known i j
  known_unique : ∀ {i j i' j'}, w.known i i' → w.known j j' → (i = j ↔ i' = j')
  routines_unique : ∀ {r q r' q'}, w.routines r r' → w.routines q q' → (r = q ↔ r' = q')
  routines_lt : ∀ {r q}, w.routines r q → r < s.routines ∧ q < t.routines

/-- In the world without identities any two stores are related. -/
theorem Store.related_empty (s t : Store) : s.Related (World.empty (s, t)) t := by
  refine ⟨fun output => ⟨[], ?_⟩, False.elim, False.elim, False.elim, False.elim, False.elim⟩
  simp [World.empty, Sink.writeLines]

theorem optionRel_imp {α β : Type} {R S : α → β → Prop} (weaker : ∀ a b, R a b → S a b)
    {x : Option α} {y : Option β} (related : Option.Rel R x y) : Option.Rel S x y := by
  cases related with
  | none => exact .none
  | some h => exact .some (weaker _ _ h)

theorem Scope.Related.mono {w later : World} (within : w.Within later) {a b : Scope}
    (related : Scope.Related w a b) : Scope.Related later a b where
  label := related.label
  fixed := related.fixed
  entries := related.entries.imp fun _ _ h => ⟨h.1, h.2.mono within⟩
  parent := optionRel_imp (fun _ _ known => within.known known) related.parent

/-! ## Texts -/

theorem map_eq_of_forall₂ {α β γ : Type} {f : α → γ} {g : β → γ} {xs : List α} {ys : List β}
    (same : List.Forall₂ (fun a b => f a = g b) xs ys) : xs.map f = ys.map g := by
  induction same with
  | nil => rfl
  | cons here _ ih => rw [List.map_cons, List.map_cons, here, ih]

theorem Value.fieldTexts_eq_map (values : List Value) :
    fieldTexts values = values.map fieldText := by
  induction values with
  | nil => rfl
  | cons v rest ih => rw [fieldTexts, ih, List.map_cons]

theorem Store.valueTexts_eq_map (s : Store) (values : List Value) :
    s.valueTexts values = values.map s.valueText := by
  induction values with
  | nil => rfl
  | cons v rest ih => rw [valueTexts, ih, List.map_cons]

theorem Routine.Related.text_eq {w : World} {a b : Routine} (related : a.Related w b) :
    a.text = b.text := by
  rw [Routine.text, Routine.text, Routine.name, Routine.name, related.behaviour]

/-- Inside a field related values have the same text. -/
theorem Value.Related.fieldText_eq {w : World} {a b : Value} (related : Related w a b) :
    a.fieldText = b.fieldText := by
  induction related with
  | number n => rfl
  | bool b => rfl
  | string s => rfl
  | array lengths _ ih =>
    rw [fieldText, fieldText, fieldTexts_eq_map, fieldTexts_eq_map]
    exact congrArg _ (map_eq_of_forall₂ (List.forall₂_iff_zip.mpr ⟨lengths, fun h => ih _ _ h⟩))
  | range r => rfl
  | routine same => exact same.text_eq
  | scope held => rfl

theorem Scope.Related.text_eq {w : World} {a b : Scope} (related : Scope.Related w a b) :
    a.text = b.text := by
  have entries : (a.bindings.entries.map fun entry => entry.1 ++ ": " ++ entry.2.fieldText) =
      b.bindings.entries.map fun entry => entry.1 ++ ": " ++ entry.2.fieldText :=
    map_eq_of_forall₂ (related.entries.imp fun _ _ h => by rw [h.1, h.2.fieldText_eq])
  rw [Scope.text, Scope.text, related.fixed, related.label, entries]

namespace Store.Related

variable {w : World} {s t : Store}

theorem scopeText_eq (related : s.Related w t) {i j : ScopeId} (known : w.known i j) :
    s.scopeText i = t.scopeText j := by
  obtain ⟨a, b, ha, hb, same⟩ := related.scopes known
  rw [scopeText, scopeText, ha, hb]
  exact same.text_eq

/-- Related values have the same text. -/
theorem valueText_eq (related : s.Related w t) {a b : Value} (same : Value.Related w a b) :
    s.valueText a = t.valueText b := by
  induction same with
  | number n => rfl
  | bool b => rfl
  | string s => rfl
  | array lengths _ ih =>
    rw [valueText, valueText, valueTexts_eq_map, valueTexts_eq_map]
    exact congrArg _ (map_eq_of_forall₂ (List.forall₂_iff_zip.mpr ⟨lengths, fun h => ih _ _ h⟩))
  | range r => rfl
  | routine same => exact same.text_eq
  | scope held => exact related.scopeText_eq (related.known_of_held held)

theorem valueTexts_eq (related : s.Related w t) {xs ys : List Value}
    (same : Value.AllRelated w xs ys) : s.valueTexts xs = t.valueTexts ys := by
  rw [valueTexts_eq_map, valueTexts_eq_map]
  exact map_eq_of_forall₂ (same.imp fun _ _ h => related.valueText_eq h)

/-! ## Equality -/

theorem routine_eq (related : s.Related w t) {a a' b b' : Routine} (first : a.Related w a')
    (second : b.Related w b') : (a.id == b.id) = (a'.id == b'.id) := by
  have same := related.routines_unique first.id second.id
  rw [Bool.eq_iff_iff, beq_iff_eq, beq_iff_eq]
  exact same

theorem scope_eq (related : s.Related w t) {i i' j j' : ScopeId} (first : w.held i i')
    (second : w.held j j') : (i == j) = (i' == j') := by
  have same := related.known_unique (related.known_of_held first) (related.known_of_held second)
  rw [Bool.eq_iff_iff, beq_iff_eq, beq_iff_eq]
  exact same

theorem allEqual_eq {xs xs' ys ys' : List Value}
    (first : List.Forall₂ (fun a a' => ∀ b b', Value.Related w b b' → a.equals b = a'.equals b')
      xs xs') (second : Value.AllRelated w ys ys') :
    Value.allEqual xs ys = Value.allEqual xs' ys' := by
  induction first generalizing ys ys' with
  | nil => cases second <;> rfl
  | cons here _ ih =>
    cases second with
    | nil => rfl
    | cons there later => rw [Value.allEqual, Value.allEqual, here _ _ there, ih later]

/-- Related values compare alike. -/
theorem equals_eq (related : s.Related w t) {a a' b b' : Value} (first : Value.Related w a a')
    (second : Value.Related w b b') : a.equals b = a'.equals b' := by
  induction first generalizing b b' with
  | array lengths items ih =>
    cases second with
    | array lengths' items' =>
      rw [Value.equals, Value.equals]
      refine allEqual_eq (List.forall₂_iff_zip.mpr ⟨lengths, fun h b b' => ih _ _ h⟩) ?_
      exact Value.related_array_iff.mp (.array lengths' items')
    | _ => rfl
  | routine same =>
    cases second with
    | routine same' => exact related.routine_eq same same'
    | _ => rfl
  | scope held =>
    cases second with
    | scope held' => exact related.scope_eq held held'
    | _ => rfl
  | _ => cases second <;> rfl

end Store.Related

/-! ## Names -/

namespace EntriesRelated

variable {w : World} {xs ys : List (String × Value)}

theorem get? {a b : Bindings} (related : EntriesRelated w a.entries b.entries) (name : String) :
    Option.Rel (Value.Related w) (a.get? name) (b.get? name) := by
  rw [Bindings.get?, Bindings.get?]
  generalize a.entries = xs at related ⊢
  generalize b.entries = ys at related ⊢
  induction related with
  | nil => exact .none
  | @cons p q _ _ here _ ih =>
    simp only [List.find?_cons, here.1]
    cases q.1 == name with
    | true => exact .some here.2
    | false => exact ih

theorem contains_eq {a b : Bindings} (related : EntriesRelated w a.entries b.entries)
    (name : String) : a.contains name = b.contains name := by
  rw [Bindings.contains, Bindings.contains]
  generalize a.entries = xs at related ⊢
  generalize b.entries = ys at related ⊢
  induction related with
  | nil => rfl
  | cons here _ ih => rw [List.any_cons, List.any_cons, here.1, ih]

theorem insertEntry (related : EntriesRelated w xs ys) (name : String) {v v' : Value}
    (same : Value.Related w v v') :
    EntriesRelated w (Bindings.insertEntry name v xs) (Bindings.insertEntry name v' ys) := by
  induction related with
  | nil => exact .cons ⟨rfl, same⟩ .nil
  | @cons p q _ _ here later ih =>
    obtain ⟨key, old⟩ := p
    obtain ⟨key', old'⟩ := q
    obtain ⟨rfl, values⟩ := here
    rw [Bindings.insertEntry, Bindings.insertEntry]
    split
    · exact .cons ⟨rfl, same⟩ (.cons ⟨rfl, values⟩ later)
    · split
      · exact .cons ⟨rfl, same⟩ later
      · exact .cons ⟨rfl, values⟩ ih

/-- Bindings put together from related pairs are related. -/
theorem ofList (related : EntriesRelated w xs ys) :
    EntriesRelated w (Bindings.ofList xs).entries (Bindings.ofList ys).entries := by
  have folded : ∀ {old new : Bindings}, EntriesRelated w old.entries new.entries →
      EntriesRelated w (xs.foldl (fun b pair => b.insert pair.1 pair.2) old).entries
        (ys.foldl (fun b pair => b.insert pair.1 pair.2) new).entries := by
    induction related with
    | nil =>
      intro old new start
      exact start
    | cons here _ ih =>
      intro old new start
      rw [List.foldl_cons, List.foldl_cons, here.1]
      exact ih (insertEntry start _ here.2)
  exact folded .nil

end EntriesRelated

/-- A name has related values, or none, in related scopes. -/
theorem Store.Related.lookup {w : World} {s t : Store} (related : s.Related w t) (name : String)
    {i j : ScopeId} (known : w.known i j) :
    Option.Rel (Value.Related w) (s.lookup i name) (t.lookup j name) := by
  -- The parent of a scope is older than the scope.
  induction hn : i.index using Nat.strongRecOn generalizing i j with
  | _ n ih =>
    obtain ⟨a, b, ha, hb, same⟩ := related.scopes known
    rw [Store.lookup_of_scope? ha, Store.lookup_of_scope? hb]
    have here := same.entries.get? name
    generalize a.bindings.get? name = x at here ⊢
    generalize b.bindings.get? name = y at here ⊢
    cases here with
    | some found => exact .some found
    | none =>
      have up := same.parent
      cases above : a.parent with
      | none =>
        rw [above] at up
        generalize b.parent = q at up ⊢
        cases up
        exact .none
      | some p =>
        rw [above] at up
        generalize b.parent = q at up ⊢
        cases up with
        | some parents => exact ih p.index (hn ▸ Store.parent_lt ha above) parents rfl

end Scriptlet
