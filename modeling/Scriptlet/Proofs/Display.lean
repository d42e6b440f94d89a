import Mathlib.Data.List.Basic
import Scriptlet.Proofs.Changes
set_option autoImplicit false

/-!
# Showing values

A structure may hold itself, directly, inside arrays or by way of other structures.  Showing a value
still comes to an end: the fields of an instance are shown by rules of their own, which look into no
scope.  Hence what is shown depends only on the scopes that the value itself mentions.

The rules are stated as a relation.  That a value is related to a text means that there is a finite
derivation of the text; a rule that looked into the scopes of fields as well would leave a structure
that holds itself without any.
-/

namespace Scriptlet

/-- Where a value is shown: on its own, or inside a field of an instance. -/
inductive Place where
  | alone
  | field
  deriving DecidableEq, Repr

namespace Store

/-- The rules by which values are shown. -/
inductive Displays (s : Store) : Place → Value → String → Prop where
  | number (place : Place) (n : Float) : Displays s place (.number n) (Number.text n)
  | bool (place : Place) (b : Bool) : Displays s place (.bool b) (truthText b)
  | string (place : Place) (text : String) : Displays s place (.string text) text
  | range (place : Place) (r : Range) : Displays s place (.range r) r.text
  | routine (place : Place) (r : Routine) : Displays s place (.routine r) r.text
  /-- the items of an array are shown in the place of the array -/
  | array {place : Place} {items : List Value} {texts : List String}
      (lengths : items.length = texts.length)
      (shown : ∀ i (_ : i < items.length) (_ : i < texts.length),
        Displays s place items[i] texts[i]) :
      Displays s place (.array items) (bracketed texts)
  /-- inside a field no scope is looked into -/
  | inside (id : ScopeId) : Displays s .field (.scope id) "<namespace>"
  | unlabelled {id : ScopeId} (plain : s.isInstance id = false) (none : s.label? id = none) :
      Displays s .alone (.scope id) "<namespace>"
  | labelled {id : ScopeId} {label : String} (plain : s.isInstance id = false)
      (own : s.label? id = some label) :
      Displays s .alone (.scope id) ("<namespace " ++ label ++ ">")
  /-- an instance shows its names with the values of its fields -/
  | record {id : ScopeId} {scope : Scope} {texts : List String} (found : s.scope? id = some scope)
      (fixed : scope.fixed = true) (lengths : scope.bindings.entries.length = texts.length)
      (shown : ∀ i (_ : i < scope.bindings.entries.length) (_ : i < texts.length),
        Displays s .field scope.bindings.entries[i].2 texts[i]) :
      Displays s .alone (.scope id) ("\x7b" ++ ", ".intercalate
        (scope.bindings.entries.zipWith (fun entry text => entry.1 ++ ": " ++ text) texts) ++ "\x7d")

end Store

/-- What holds of atoms and of scopes, and of an array when it holds of its items, holds of every
value. -/
theorem Value.induction {motive : Value → Prop} (atom : ∀ v : Value, v.IsAtom → motive v)
    (array : ∀ items : List Value, (∀ v ∈ items, motive v) → motive (.array items))
    (scope : ∀ id, motive (.scope id)) (v : Value) : motive v := by
  refine @Value.rec motive (fun items => ∀ v ∈ items, motive v) ?_ ?_ ?_ ?_ ?_ ?_ ?_ ?_ ?_ v
  · exact fun n => atom (.number n) trivial
  · exact fun b => atom (.bool b) trivial
  · exact fun text => atom (.string text) trivial
  · exact array
  · exact fun r => atom (.range r) trivial
  · exact fun r => atom (.routine r) trivial
  · exact scope
  · exact List.forall_mem_nil _
  · exact fun first rest here later => List.forall_mem_cons.mpr ⟨here, later⟩

/-- Two lists are related item by item, where the relation is a function on the first one. -/
theorem related_iff_map {α β : Type} {R : α → β → Prop} {f : α → β} {xs : List α} {ys : List β}
    (function : ∀ x ∈ xs, ∀ y, R x y ↔ f x = y) :
    (xs.length = ys.length ∧ ∀ i (_ : i < xs.length) (_ : i < ys.length), R xs[i] ys[i]) ↔
      xs.map f = ys := by
  constructor
  · rintro ⟨lengths, related⟩
    refine List.ext_getElem (by rw [List.length_map, lengths]) fun i left right => ?_
    rw [List.length_map] at left
    rw [List.getElem_map]
    exact (function _ (List.getElem_mem left) _).mp (related i left right)
  · rintro rfl
    refine ⟨(List.length_map f).symm, fun i left right => ?_⟩
    rw [List.getElem_map]
    exact (function _ (List.getElem_mem left) _).mpr rfl

/-! ## The text of a scope -/

theorem Scope.text_of_fixed {scope : Scope} (fixed : scope.fixed = true) :
    scope.text = "\x7b" ++ ", ".intercalate (scope.bindings.entries.zipWith
      (fun entry text => entry.1 ++ ": " ++ text)
      (scope.bindings.entries.map fun entry => entry.2.fieldText)) ++ "\x7d" := by
  rw [Scope.text, if_pos fixed, List.zipWith_map_right, List.zipWith_self]

namespace Store

variable {s t : Store} {id : ScopeId} {text : String}

/-- What is shown of a scope: whether it is an instance, its label, and its bindings. -/
theorem scopeText_eq (s : Store) (id : ScopeId) :
    s.scopeText id = Scope.text
      ⟨s.label? id, ((s.scope? id).map Scope.bindings).getD .empty, none, s.isInstance id⟩ := by
  rw [scopeText, label?, isInstance]
  cases s.scope? id <;> rfl

theorem scopeText_of_found {scope : Scope} (found : s.scope? id = some scope) :
    s.scopeText id = scope.text := by
  rw [scopeText, found]

theorem scopeText_of_plain (plain : s.isInstance id = false) :
    s.scopeText id =
      ((s.label? id).map fun label => "<namespace " ++ label ++ ">").getD "<namespace>" := by
  rw [scopeText_eq, Scope.text, plain]
  cases s.label? id <;> rfl

/-! ## Every value has one text -/

/-- An atom is shown in the same way everywhere. -/
theorem displays_atom_iff {v : Value} (atom : v.IsAtom) {place : Place} :
    s.Displays place v text ↔ v.fieldText = text := by
  cases v with
  | array | scope => exact atom.elim
  | number | bool | string | range | routine =>
    constructor
    · intro shown
      cases shown
      rfl
    · rintro rfl
      constructor

/-- No store is needed to show an atom. -/
theorem valueText_of_isAtom {v : Value} (atom : v.IsAtom) : s.valueText v = v.fieldText := by
  cases v with
  | array | scope => exact atom.elim
  | number | bool | string | range | routine => rfl

theorem displays_array_iff {place : Place} {items : List Value} {f : Value → String}
    (each : ∀ v ∈ items, ∀ text, s.Displays place v text ↔ f v = text) :
    s.Displays place (.array items) text ↔ bracketed (items.map f) = text := by
  constructor
  · intro shown
    cases shown with
    | array lengths shown => rw [(related_iff_map each).mp ⟨lengths, shown⟩]
  · rintro rfl
    obtain ⟨lengths, shown⟩ := (related_iff_map each).mpr rfl
    exact .array lengths shown

/-- Inside a field every value has one text, whatever the store. -/
theorem displays_field_iff (v : Value) : s.Displays .field v text ↔ v.fieldText = text := by
  induction v using Value.induction generalizing text with
  | atom v atom => exact displays_atom_iff atom
  | array items ih =>
    rw [Value.fieldText, Value.fieldTexts_eq_map]
    exact displays_array_iff fun v member _ => ih v member
  | scope id =>
    constructor
    · intro shown
      cases shown
      rfl
    · rintro rfl
      exact .inside id

theorem displays_scope_iff : s.Displays .alone (.scope id) text ↔ s.scopeText id = text := by
  have fields (entries : List (String × Value)) : ∀ entry ∈ entries, ∀ text,
      s.Displays .field entry.2 text ↔ entry.2.fieldText = text :=
    fun entry _ _ => displays_field_iff entry.2
  constructor
  · intro shown
    cases shown with
    | unlabelled plain label =>
      rw [scopeText_of_plain plain, label, Option.map_none, Option.getD_none]
    | labelled plain label =>
      rw [scopeText_of_plain plain, label, Option.map_some, Option.getD_some]
    | record found fixed lengths shown =>
      rw [scopeText_of_found found, Scope.text_of_fixed fixed,
        (related_iff_map (fields _)).mp ⟨lengths, shown⟩]
  · rintro rfl
    cases kind : s.isInstance id with
    | false =>
      rw [scopeText_of_plain kind]
      cases label : s.label? id with
      | none => exact .unlabelled kind label
      | some text => exact .labelled kind label
    | true =>
      cases found : s.scope? id with
      | none =>
        rw [isInstance, found] at kind
        cases kind
      | some scope =>
        have fixed : scope.fixed = true := by simpa [isInstance, found] using kind
        obtain ⟨lengths, shown⟩ := (related_iff_map (fields scope.bindings.entries)).mpr rfl
        rw [scopeText_of_found found, Scope.text_of_fixed fixed]
        exact .record found fixed lengths shown

/-- Every value is shown by exactly one text. -/
theorem displays_alone_iff (v : Value) : s.Displays .alone v text ↔ s.valueText v = text := by
  induction v using Value.induction generalizing text with
  | atom v atom =>
    rw [valueText_of_isAtom atom]
    exact displays_atom_iff atom
  | array items ih =>
    rw [valueText, valueTexts_eq_map]
    exact displays_array_iff fun v member _ => ih v member
  | scope id => exact displays_scope_iff

/-! ## What the text depends on -/

/-- Both stores show the scope in the same way: under the same label, as an instance or not, and if
so with the same bindings. -/
structure SameFace (s t : Store) (id : ScopeId) : Prop where
  label : s.label? id = t.label? id
  kind : s.isInstance id = t.isInstance id
  bindings : s.isInstance id = true →
    (s.scope? id).map Scope.bindings = (t.scope? id).map Scope.bindings

theorem SameFace.scopeText_eq (same : s.SameFace t id) : s.scopeText id = t.scopeText id := by
  cases kind : s.isInstance id with
  | false => rw [scopeText_of_plain kind, scopeText_of_plain (same.kind ▸ kind), same.label]
  | true => rw [Store.scopeText_eq, Store.scopeText_eq, same.label, same.kind, same.bindings kind]

/-- The text of a value depends on how the scopes look that the value mentions. -/
theorem valueText_congr {v : Value} (same : ∀ id, v.Mentions id → s.SameFace t id) :
    s.valueText v = t.valueText v := by
  induction v using Value.induction with
  | atom v atom => rw [valueText_of_isAtom atom, valueText_of_isAtom atom]
  | array items ih =>
    rw [valueText, valueText, valueTexts_eq_map, valueTexts_eq_map]
    refine congrArg bracketed (List.map_congr_left fun v member => ih v member fun id inside => ?_)
    exact same id (.item member inside)
  | scope id => exact (same id .scope).scopeText_eq

end Store

/-- Showing a value comes to an end and looks one scope deep.  In every store, whatever circles its
bindings make, exactly one text can be derived for a value, and that is the one it is shown by.  And
two stores show a value by the same text if they agree on the scopes that the value mentions itself,
being one of them or an array with an item that mentions it: on the label, on whether it is an
instance, and on the bindings if it is one.  What they hold in scopes that only fields lead to makes
no difference. -/
theorem display_ends_one_scope_deep (v : Value) :
    (∀ (s : Store) (text : String), s.Displays .alone v text ↔ s.valueText v = text) ∧
    ∀ s t : Store, (∀ id, v.Mentions id → s.SameFace t id) → s.valueText v = t.valueText v :=
  ⟨fun _ _ => Store.displays_alone_iff v, fun _ _ => Store.valueText_congr⟩

/-- A structure that holds itself and another one, in two stores of which only the first has a
structure in the other's place. -/
theorem display_ends_one_scope_deep_circular :
    let bindings : Bindings :=
      ⟨[("parts", .array [.scope ⟨1⟩, .array [.scope ⟨0⟩]]), ("self", .scope ⟨0⟩)], by decide⟩
    let whole : Scope := ⟨none, bindings, none, true⟩
    let part : Scope := ⟨none, ⟨[("x", .bool true)], by decide⟩, none, true⟩
    let s : Store := ⟨#[whole, part], 0, ⟨"", false⟩, #[], by decide +zetaReduce⟩
    let t : Store := ⟨#[whole, ⟨some "math", .empty, none, false⟩], 0, ⟨"", false⟩, #[],
      by decide +zetaReduce⟩
    let v : Value := .array [.scope ⟨0⟩, .string "a"]
    let text := "[\x7bparts: [<namespace>, [<namespace>]], self: <namespace>\x7d, a]"
    s.valueText (.scope ⟨1⟩) = "\x7bx: true\x7d" ∧ t.valueText (.scope ⟨1⟩) = "<namespace math>" ∧
    (∀ id, v.Mentions id → s.SameFace t id) ∧ s.Displays .alone v text ∧ t.Displays .alone v text := by
  intro bindings whole part s t v text
  have same (id : ScopeId) (mentioned : Value.Mentions id (.array [.scope ⟨0⟩, .string "a"])) :
      s.SameFace t id := by
    cases mentioned with
    | item member inside =>
      rcases List.mem_cons.mp member with rfl | later
      · cases inside
        exact ⟨rfl, rfl, fun _ => rfl⟩
      · cases List.mem_singleton.mp later
        cases inside
  have shown : s.valueText v = text := rfl
  obtain ⟨ends, agree⟩ := display_ends_one_scope_deep v
  exact ⟨rfl, rfl, same, (ends s text).mpr shown,
    (ends t text).mpr ((agree s t same).symm.trans shown)⟩

end Scriptlet
