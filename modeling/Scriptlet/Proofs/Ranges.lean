import Mathlib.Algebra.Order.Field.Basic
import Mathlib.Data.Rat.Floor
import Scriptlet.Range
set_option autoImplicit false

/-!
# The items of a range

A range is iterated in 64-bit integers: an item is given while it is below the stop, and the next
one is found by an addition that is checked for overflow.  In the unbounded integers the items are
an arithmetic progression, cut off before its first number that is not below the stop or that does
not fit in 64 bits.  For an ascending range the stop always comes first, for a descending one the
least 64-bit integer, and without a step neither ever comes.
-/

namespace Scriptlet

/-! ## Checked addition -/

theorem toInt_ofInt_of_fits {x : Int} (low : Int64.minValue.toInt ≤ x)
    (high : x ≤ Int64.maxValue.toInt) : (Int64.ofInt x).toInt = x :=
  Int64.toInt_ofInt_of_le low (Int.lt_add_one_of_le high)

/-- A sum that is given is exact, and one that is a 64-bit integer is given. -/
theorem checkedAdd_eq_some_iff {a b sum : Int64} :
    checkedAdd a b = some sum ↔ sum.toInt = a.toInt + b.toInt := by
  constructor
  · intro added
    by_cases fits : Int64.minValue.toInt ≤ a.toInt + b.toInt ∧
        a.toInt + b.toInt ≤ Int64.maxValue.toInt
    · rw [checkedAdd, if_pos fits] at added
      cases added
      exact toInt_ofInt_of_fits fits.1 fits.2
    · rw [checkedAdd, if_neg fits] at added
      cases added
  · intro exact
    have fits : Int64.minValue.toInt ≤ sum.toInt ∧ sum.toInt ≤ Int64.maxValue.toInt :=
      ⟨Int64.le_toInt sum, Int64.toInt_le sum⟩
    rw [exact] at fits
    rw [checkedAdd, if_pos fits, ← exact, Int64.ofInt_toInt]

namespace Range

/-! ## One item after the other -/

/-- The number at a place of the progression, in the unbounded integers. -/
def number (r : Range) (k : Nat) : Int := r.start.toInt + k * r.step.toInt

/-- The first numbers of the progression. -/
def progression (r : Range) (count : Nat) : List Int := (List.range count).map r.number

/-- The number can be an item: it is below the stop, and not below the 64-bit integers. -/
def Admits (r : Range) (x : Int) : Prop := Int64.minValue.toInt ≤ x ∧ x < r.stop.toInt

/-- The range as it is when its next item is `current`. -/
def goingOn (r : Range) (current : Int64) : Range := { r with start := current }

theorem number_zero (r : Range) : r.number 0 = r.start.toInt := by simp [number]

theorem number_goingOn {r : Range} {next : Int64}
    (after : next.toInt = r.start.toInt + r.step.toInt) (k : Nat) :
    (r.goingOn next).number k = r.number (k + 1) := by
  simp only [number, goingOn, after]
  push_cast
  ring

theorem progression_succ {r : Range} {next : Int64}
    (after : next.toInt = r.start.toInt + r.step.toInt) (count : Nat) :
    r.progression (count + 1) = r.start.toInt :: (r.goingOn next).progression count := by
  simp only [progression, List.range_succ_eq_map, List.map_cons, List.map_map, number_zero]
  congr 1
  exact List.map_congr_left fun k _ => (number_goingOn after k).symm

theorem itemsFrom_goingOn (r : Range) (current : Int64) (n : Nat) (place : Option Int64) :
    (r.goingOn current).itemsFrom n place = r.itemsFrom n place := by
  induction n generalizing place with
  | zero => rfl
  | succ n ih =>
    cases place with
    | none => rfl
    | some x =>
      simp only [itemsFrom, ih]
      rfl

theorem take_of_stop_le {r : Range} (past : r.stop ≤ r.start) (n : Nat) : r.take n = [] := by
  cases n with
  | zero => rfl
  | succ n => exact if_neg (Int64.not_lt.mpr past)

/-- One item is given, and the iteration goes on behind it unless that is past the 64-bit
integers. -/
theorem take_succ {r : Range} (below : r.start < r.stop) (n : Nat) :
    r.take (n + 1) = r.start ::
      match checkedAdd r.start r.step with
      | none => []
      | some next => (r.goingOn next).take n := by
  rw [take, itemsFrom, if_pos below]
  congr 1
  cases checkedAdd r.start r.step with
  | none => cases n <;> rfl
  | some next => exact (r.itemsFrom_goingOn next n (some next)).symm

/-! ## How many items there are -/

/-- The progression can be followed for exactly `count` numbers. -/
structure HasCount (r : Range) (count : Nat) : Prop where
  inside : ∀ k < count, r.Admits (r.number k)
  ends : ¬ r.Admits (r.number count)

/-- The iteration gives these numbers one after the other, and then it ends. -/
def Enumerates (r : Range) (items : List Int) : Prop :=
  ∀ n, (r.take n).map Int64.toInt = items.take n

theorem admits_start {r : Range} : r.Admits (r.number 0) ↔ r.start < r.stop := by
  rw [number_zero, Int64.lt_iff_toInt_lt]
  exact and_iff_right (Int64.le_toInt r.start)

theorem HasCount.goingOn {r : Range} {count : Nat} {next : Int64} (counted : r.HasCount (count + 1))
    (after : next.toInt = r.start.toInt + r.step.toInt) : (r.goingOn next).HasCount count := by
  refine ⟨fun k less => ?_, fun admitted => counted.ends ?_⟩
  · rw [number_goingOn after]
    exact counted.inside (k + 1) (by omega)
  · rw [number_goingOn after] at admitted
    exact admitted

theorem HasCount.enumerates {r : Range} {count : Nat} (counted : r.HasCount count) :
    r.Enumerates (r.progression count) := by
  intro n
  -- The induction is on how many items are asked for; the range moves on with each.
  induction n generalizing r count with
  | zero => simp [take, itemsFrom]
  | succ n ih =>
    cases count with
    | zero =>
      have past : r.stop ≤ r.start := Int64.not_lt.mp fun below =>
        counted.ends (admits_start.mpr below)
      rw [take_of_stop_le past]
      rfl
    | succ count =>
      have below : r.start < r.stop := admits_start.mp (counted.inside 0 (by omega))
      rw [take_succ below]
      cases added : checkedAdd r.start r.step with
      | some next =>
        have after := checkedAdd_eq_some_iff.mp added
        rw [progression_succ after, List.map_cons, List.take_succ_cons]
        exact congrArg _ (ih (counted.goingOn after))
      | none =>
        -- A number behind the first would fit, so it would have been found.
        have last : count = 0 := by
          by_contra more
          obtain ⟨low, high⟩ := counted.inside 1 (by omega)
          have found : checkedAdd r.start r.step = some (Int64.ofInt (r.number 1)) := by
            rw [checkedAdd_eq_some_iff, toInt_ofInt_of_fits low (high.le.trans (Int64.toInt_le _))]
            simp [number]
          rw [found] at added
          cases added
        rw [last]
        simp [progression, number_zero]

theorem Enumerates.unique {r : Range} {items others : List Int} (first : r.Enumerates items)
    (second : r.Enumerates others) : items = others := by
  have same := (first (max items.length others.length)).symm.trans (second _)
  rwa [List.take_of_length_le (le_max_left _ _), List.take_of_length_le (le_max_right _ _)] at same

/-! ## Ascending, descending and endless ranges -/

theorem hasCount_zero {r : Range} (past : r.stop ≤ r.start) : r.HasCount 0 :=
  ⟨fun _ less => absurd less (Nat.not_lt_zero _), fun admitted =>
    Int64.not_lt.mpr past (admits_start.mp admitted)⟩

theorem hasCount_of_iff {r : Range} {count : Nat}
    (exactly : ∀ k, k < count ↔ r.Admits (r.number k)) : r.HasCount count :=
  ⟨fun k => (exactly k).mp, fun admitted => lt_irrefl count ((exactly count).mpr admitted)⟩

/-- An ascending range never leaves the 64-bit integers before it reaches its stop. -/
theorem admits_ascending (r : Range) (up : 0 < r.step) (k : Nat) :
    r.Admits (r.number k) ↔ r.number k < r.stop.toInt := by
  have positive : 0 ≤ (k : Int) * r.step.toInt :=
    mul_nonneg (Int.natCast_nonneg k) (Int64.lt_iff_toInt_lt.mp up).le
  have least : Int64.minValue.toInt ≤ r.start.toInt := Int64.le_toInt r.start
  exact and_iff_right (by rw [number]; omega)

/-- A descending range that starts below its stop never reaches it. -/
theorem admits_descending (r : Range) (below : r.start < r.stop) (down : r.step < 0) (k : Nat) :
    r.Admits (r.number k) ↔ Int64.minValue.toInt ≤ r.number k := by
  have negative : (k : Int) * r.step.toInt ≤ 0 :=
    mul_nonpos_of_nonneg_of_nonpos (Int.natCast_nonneg k) (Int64.lt_iff_toInt_lt.mp down).le
  have start := Int64.lt_iff_toInt_lt.mp below
  exact and_iff_left (by rw [number]; omega)

theorem hasCount_ascending {r : Range} {count : Nat} (up : 0 < r.step)
    (exactly : ∀ k, k < count ↔ r.number k < r.stop.toInt) : r.HasCount count :=
  hasCount_of_iff fun k => (exactly k).trans (r.admits_ascending up k).symm

theorem hasCount_descending {r : Range} {count : Nat} (below : r.start < r.stop)
    (down : r.step < 0) (exactly : ∀ k, k < count ↔ Int64.minValue.toInt ≤ r.number k) :
    r.HasCount count :=
  hasCount_of_iff fun k => (exactly k).trans (r.admits_descending below down k).symm

theorem lt_ceil_iff (r : Range) (up : 0 < r.step) (k : Nat) :
    k < ⌈((r.stop.toInt - r.start.toInt : ℤ) : ℚ) / r.step.toInt⌉₊ ↔
      r.number k < r.stop.toInt := by
  have positive : (0 : ℚ) < r.step.toInt := Int.cast_pos.mpr (Int64.lt_iff_toInt_lt.mp up)
  rw [Nat.lt_ceil, lt_div_iff₀ positive, number]
  norm_cast
  omega

theorem lt_ascending_iff (r : Range) (below : r.start < r.stop) (up : 0 < r.step) (k : Nat) :
    k < ((r.stop.toInt - r.start.toInt - 1) / r.step.toInt).toNat + 1 ↔
      r.number k < r.stop.toInt := by
  have positive : 0 < r.step.toInt := Int64.lt_iff_toInt_lt.mp up
  have start := Int64.lt_iff_toInt_lt.mp below
  have quotient : 0 ≤ (r.stop.toInt - r.start.toInt - 1) / r.step.toInt :=
    Int.ediv_nonneg (by omega) positive.le
  have fits : (k : Int) ≤ (r.stop.toInt - r.start.toInt - 1) / r.step.toInt ↔
      k * r.step.toInt ≤ r.stop.toInt - r.start.toInt - 1 := Int.le_ediv_iff_mul_le positive
  rw [number]
  omega

theorem lt_descending_iff (r : Range) (down : r.step < 0) (k : Nat) :
    k < ((r.start.toInt - Int64.minValue.toInt) / -r.step.toInt).toNat + 1 ↔
      Int64.minValue.toInt ≤ r.number k := by
  have positive : 0 < -r.step.toInt := neg_pos.mpr (Int64.lt_iff_toInt_lt.mp down)
  have least : Int64.minValue.toInt ≤ r.start.toInt := Int64.le_toInt r.start
  have quotient : 0 ≤ (r.start.toInt - Int64.minValue.toInt) / -r.step.toInt :=
    Int.ediv_nonneg (by omega) positive.le
  have fits : (k : Int) ≤ (r.start.toInt - Int64.minValue.toInt) / -r.step.toInt ↔
      k * -r.step.toInt ≤ r.start.toInt - Int64.minValue.toInt := Int.le_ediv_iff_mul_le positive
  rw [mul_neg] at fits
  rw [number]
  omega

theorem take_endless (r : Range) (below : r.start < r.stop) (still : r.step = 0) (n : Nat) :
    r.take n = List.replicate n r.start := by
  have stays : checkedAdd r.start r.step = some r.start := by
    rw [checkedAdd_eq_some_iff, still]
    exact (Int.add_zero _).symm
  induction n with
  | zero => rfl
  | succ n ih =>
    rw [take_succ below, stays, List.replicate_succ]
    exact congrArg _ ih

/-! ## All items -/

theorem length?_eq_none_iff (r : Range) :
    r.length? = none ↔ r.start < r.stop ∧ r.step = 0 := by
  rw [length?, Int64.lt_iff_toInt_lt, ← Int64.toInt_inj]
  simp only [Int64.toInt_zero]
  split_ifs <;> simp <;> omega

/-- The number of items is right wherever one is given. -/
theorem hasCount_of_length? {r : Range} {count : Nat} (counted : r.length? = some count) :
    r.HasCount count := by
  rw [length?] at counted
  split_ifs at counted with past up down
  · cases counted
    exact hasCount_zero (Int64.le_iff_toInt_le.mpr past)
  · cases counted
    have below : r.start < r.stop := Int64.lt_iff_toInt_lt.mpr (not_le.mp past)
    have ascends : 0 < r.step := Int64.lt_iff_toInt_lt.mpr up
    exact hasCount_ascending ascends (r.lt_ascending_iff below ascends)
  · cases counted
    have below : r.start < r.stop := Int64.lt_iff_toInt_lt.mpr (not_le.mp past)
    have descends : r.step < 0 := Int64.lt_iff_toInt_lt.mpr down
    exact hasCount_descending below descends (r.lt_descending_iff descends)

theorem length_progression (r : Range) (count : Nat) : (r.progression count).length = count := by
  simp [progression]

theorem toList?_eq_some_iff (r : Range) (items : List Int64) :
    r.toList? = some items ↔ r.Enumerates (items.map Int64.toInt) := by
  cases counted : r.length? with
  | some count =>
    have enumerates := (hasCount_of_length? counted).enumerates
    have whole : (r.take count).map Int64.toInt = r.progression count := by
      rw [enumerates count, List.take_of_length_le (r.length_progression count).le]
    rw [toList?, counted, Option.map_some, Option.some_inj]
    constructor
    · rintro rfl
      rwa [whole]
    · intro others
      have same := whole.trans (enumerates.unique others)
      exact List.map_injective_iff.mpr (fun _ _ => Int64.toInt_inj.mp) same
  | none =>
    obtain ⟨below, still⟩ := r.length?_eq_none_iff.mp counted
    rw [toList?, counted, Option.map_none]
    refine iff_of_false (by simp) fun enumerates => ?_
    have lengths := congrArg List.length (enumerates (items.length + 1))
    rw [r.take_endless below still] at lengths
    simp at lengths

/-- No item has wrapped around: it is the number of the progression at its place. -/
theorem toInt_getElem?_take {r : Range} {n k : Nat} {x : Int64} (given : (r.take n)[k]? = some x) :
    x.toInt = r.number k := by
  induction n generalizing r k with
  | zero => cases given
  | succ n ih =>
    by_cases below : r.start < r.stop
    · rw [take_succ below] at given
      cases k with
      | zero =>
        cases given
        exact r.number_zero.symm
      | succ k =>
        rw [List.getElem?_cons_succ] at given
        cases added : checkedAdd r.start r.step with
        | none =>
          rw [added] at given
          cases given
        | some next =>
          rw [added] at given
          rw [ih given, number_goingOn (checkedAdd_eq_some_iff.mp added)]
    · rw [take_of_stop_le (Int64.not_lt.mp below)] at given
      cases given

end Range

/-- Ranges enumerate their progression within 64 bits.  A range that starts at or above its stop has
no items.  One that starts below it has, if it ascends, all numbers of the progression below the
stop, of which there are as many as the steps to the stop rounded up; if it descends, exactly those
that are not below the least 64-bit integer; and without a step its start for ever.  Every item is
the exact number at its place, and a list of all items is given exactly if the iteration ends with
it. -/
theorem ranges_enumerate_progressions (start step stop : Int64) :
    let r : Range := ⟨start, step, stop⟩
    (stop ≤ start → r.Enumerates []) ∧
    (start < stop → 0 < step →
      r.Enumerates (r.progression ⌈((stop.toInt - start.toInt : ℤ) : ℚ) / step.toInt⌉₊)) ∧
    (start < stop → step < 0 →
      ∃ count, (∀ k, k < count ↔ -2 ^ 63 ≤ r.number k) ∧ r.Enumerates (r.progression count)) ∧
    (start < stop → step = 0 → ∀ n, r.take n = List.replicate n start) ∧
    (∀ (n k : ℕ) (x : Int64), (r.take n)[k]? = some x → x.toInt = r.number k) ∧
    ∀ items, r.toList? = some items ↔ r.Enumerates (items.map Int64.toInt) := by
  intro r
  refine ⟨fun past => ?_, fun below up => ?_, fun below down => ?_, r.take_endless,
    fun n k x => Range.toInt_getElem?_take, r.toList?_eq_some_iff⟩
  · exact (Range.hasCount_zero (r := r) past).enumerates
  · exact (Range.hasCount_ascending (r := r) up (r.lt_ceil_iff up)).enumerates
  · have least : Int64.minValue.toInt = -2 ^ 63 := by decide
    rw [← least]
    have exactly := r.lt_descending_iff down
    exact ⟨_, exactly, (Range.hasCount_descending (r := r) below down exactly).enumerates⟩

-- Steps that are almost as wide as the 64-bit integers, up and down.
example : Range.take ⟨-9223372036854775808, 9223372036854775807, 9223372036854775807⟩ 5 =
    [-9223372036854775808, -1, 9223372036854775806] := by decide

example : Range.take ⟨0, -9223372036854775807, 1⟩ 5 = [0, -9223372036854775807] := by decide

end Scriptlet
