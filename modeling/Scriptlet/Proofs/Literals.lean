import Mathlib.Algebra.BigOperators.Fin
import Mathlib.Data.List.TakeWhile
import Mathlib.Tactic.Ring
import Scriptlet.Scan.Machine
set_option autoImplicit false

/-!
# Number literals

A number literal is the longest run of digits and points.  Its value is computed in doubles: the
digits are folded from the left, and where there is a point the result is divided by a power of ten,
whose exponent is read off the length of the text behind the point.  Done in rational numbers, the
same computation gives the decimal that the literal denotes.
-/

namespace Scriptlet

/-! ## The value of a literal -/

/-- What a digit counts for by itself. -/
def digitValue (c : Char) : Nat := c.toNat - '0'.toNat

/-- The digits of a literal behind its point. -/
def digitsBehindPoint (run : List Char) : List Char :=
  (run.dropWhile (· != '.')).filter Char.isDigit

/-- The value of a literal in the arithmetic to which `number` leads: its digits are folded from the
left and, if it has a point, divided by ten to the number of digits behind the point. -/
def literalIn {α : Type} [Add α] [Mul α] [Div α] (number : Nat → α) (run : List Char) : α :=
  let digits := foldDigits number (run.filter Char.isDigit)
  if '.' ∈ run then
    digits / Number.squaringPower (number 1) (number 10) (digitsBehindPoint run).length
  else digits

/-- The decimal with these digits and the point behind the first `places` of them: the digit just
before the point counts for itself, and every digit ten times as much as the same digit one place
further right. -/
def decimal (digits : List Char) (places : ℤ) : ℚ :=
  ∑ i : Fin digits.length, (digitValue (digits.get i) : ℚ) * 10 ^ (places - 1 - i)

/-- The decimal that a literal denotes. -/
def denotedValue (run : List Char) : ℚ :=
  decimal (run.filter Char.isDigit) (run.takeWhile Char.isDigit).length

/-! ## Exact arithmetic -/

namespace Number

/-- Repeated squaring gives the power. -/
theorem squaringPower_eq {M : Type} [Monoid M] (acc base : M) (exponent : Nat) :
    squaringPower acc base exponent = acc * base ^ exponent := by
  induction exponent using Nat.strong_induction_on generalizing acc base with
  | _ exponent ih =>
    have halves : 2 * (exponent / 2) + exponent % 2 = exponent := Nat.div_add_mod exponent 2
    have parity : exponent % 2 = 0 ∨ exponent % 2 = 1 := Nat.mod_two_eq_zero_or_one exponent
    have first : (if exponent % 2 = 1 then acc * base else acc) = acc * base ^ (exponent % 2) := by
      rcases parity with even | odd
      · simp [even]
      · simp [odd]
    rw [squaringPower, first]
    by_cases small : exponent < 2
    · rw [if_pos small, Nat.mod_eq_of_lt small]
    · rw [if_neg small, ih (exponent / 2) (by omega), ← pow_two, ← pow_mul, mul_assoc, ← pow_add]
      congr 2
      omega

theorem powerOfTen_ofNat {k : Nat} (small : k < 2 ^ 31) :
    powerOfTen (Int32.ofNat k) = squaringPower 1.0 10.0 k := by
  have same : (Int32.ofNat k).toInt = k := Int32.toInt_ofNat_of_lt small
  have positive : ¬ Int32.ofNat k < 0 := by
    rw [Int32.lt_iff_toInt_lt, same]
    exact not_lt.mpr (Int.natCast_nonneg k)
  rw [powerOfTen, if_neg positive, same, Int.natAbs_natCast]

end Number

theorem decimal_nil (places : ℤ) : decimal [] places = 0 := by simp [decimal]

theorem decimal_cons (c : Char) (rest : List Char) (places : ℤ) :
    decimal (c :: rest) places = digitValue c * 10 ^ (places - 1) + decimal rest (places - 1) := by
  have later (i : Fin rest.length) : places - 1 - ((i + 1 : ℕ) : ℤ) = places - 1 - 1 - i := by
    push_cast
    ring
  simp only [decimal, List.length_cons, Fin.sum_univ_succ, Fin.val_succ, later]
  simp

/-- A point further right makes the decimal ten times as large. -/
theorem decimal_mul_pow (digits : List Char) (places : ℤ) (k : Nat) :
    decimal digits places * 10 ^ k = decimal digits (places + k) := by
  rw [decimal, Finset.sum_mul]
  refine Finset.sum_congr rfl fun i _ => ?_
  rw [mul_assoc, ← zpow_natCast, ← zpow_add₀ (by norm_num)]
  congr 2
  ring

theorem foldl_digits (digits : List Char) (acc : ℚ) :
    digits.foldl (fun acc c => acc * (10 : ℕ) + (digitValue c : ℚ)) acc =
      acc * 10 ^ digits.length + decimal digits digits.length := by
  induction digits generalizing acc with
  | nil => simp [decimal_nil]
  | cons c rest ih =>
    have behind : ((rest.length + 1 : ℕ) : ℤ) - 1 = rest.length := by
      push_cast
      ring
    rw [List.foldl_cons, ih, decimal_cons, List.length_cons, behind, zpow_natCast]
    push_cast
    ring

/-- The digits folded from the left in rational numbers are the decimal without a point. -/
theorem foldDigits_rational (digits : List Char) :
    foldDigits (Nat.cast : ℕ → ℚ) digits = decimal digits digits.length := by
  refine (foldl_digits digits ((0 : ℕ) : ℚ)).trans ?_
  rw [Nat.cast_zero, zero_mul, zero_add]

/-! ## The shape of a literal -/

theorem isDigit_of_ne_point {c : Char} (within : isNumberChar c = true) (other : c ≠ '.') :
    c.isDigit = true := by
  simpa [isNumberChar, other] using within

/-- A literal without a point consists of digits. -/
theorem digits_of_no_point {run : List Char} (within : ∀ c ∈ run, isNumberChar c = true)
    (none : '.' ∉ run) : ∀ c ∈ run, c.isDigit = true :=
  fun c member => isDigit_of_ne_point (within c member) fun same => none (same ▸ member)

/-- A literal with one point has digits before and behind it. -/
theorem exists_parts {run : List Char} (within : ∀ c ∈ run, isNumberChar c = true)
    (once : run.count '.' < 2) (point : '.' ∈ run) :
    ∃ whole fraction, run = whole ++ '.' :: fraction ∧ (∀ c ∈ whole, c.isDigit = true) ∧
      ∀ c ∈ fraction, c.isDigit = true := by
  obtain ⟨whole, fraction, rfl⟩ := List.append_of_mem point
  rw [List.count_append, List.count_cons_self] at once
  have noneBefore : '.' ∉ whole := List.count_eq_zero.mp (by omega)
  have noneBehind : '.' ∉ fraction := List.count_eq_zero.mp (by omega)
  refine ⟨whole, fraction, rfl, digits_of_no_point (fun c member => within c ?_) noneBefore,
    digits_of_no_point (fun c member => within c ?_) noneBehind⟩
  · exact List.mem_append_left _ member
  · exact List.mem_append_right _ (List.mem_cons_of_mem _ member)

theorem filter_of_digits {chars : List Char} (digits : ∀ c ∈ chars, c.isDigit = true) :
    chars.filter Char.isDigit = chars :=
  List.filter_eq_self.mpr digits

section

variable {whole fraction : List Char} (before : ∀ c ∈ whole, c.isDigit = true)
include before

theorem takeWhile_parts : (whole ++ '.' :: fraction).takeWhile Char.isDigit = whole := by
  rw [List.takeWhile_append_of_pos before, List.takeWhile_cons_of_neg (by decide), List.append_nil]

theorem dropWhile_parts : (whole ++ '.' :: fraction).dropWhile Char.isDigit = '.' :: fraction := by
  rw [List.dropWhile_append_of_pos before, List.dropWhile_cons_of_neg (by decide)]

variable (behind : ∀ c ∈ fraction, c.isDigit = true)
include behind

theorem filter_parts : (whole ++ '.' :: fraction).filter Char.isDigit = whole ++ fraction := by
  rw [List.filter_append, List.filter_cons_of_neg (by decide), filter_of_digits before,
    filter_of_digits behind]

theorem digitsBehindPoint_parts : digitsBehindPoint (whole ++ '.' :: fraction) = fraction := by
  have apart : ∀ c ∈ whole, (c != '.') = true := by
    intro c member
    refine bne_iff_ne.mpr fun same => ?_
    have digit := before c member
    rw [same] at digit
    cases digit
  rw [digitsBehindPoint, List.dropWhile_append_of_pos apart, List.dropWhile_cons_of_neg (by decide),
    List.filter_cons_of_neg (by decide), filter_of_digits behind]

end

/-! ## Both arithmetics -/

section

variable {run : List Char} (within : ∀ c ∈ run, isNumberChar c = true) (once : run.count '.' < 2)
include within once

/-- In rational numbers a literal has the value it denotes. -/
theorem literalIn_rational : literalIn (Nat.cast : ℕ → ℚ) run = denotedValue run := by
  by_cases point : '.' ∈ run
  · obtain ⟨whole, fraction, rfl, before, behind⟩ := exists_parts within once point
    have scaled := decimal_mul_pow (whole ++ fraction) whole.length fraction.length
    rw [literalIn, if_pos point, denotedValue, filter_parts before behind, takeWhile_parts before,
      digitsBehindPoint_parts before behind, foldDigits_rational, Number.squaringPower_eq,
      List.length_append, Nat.cast_add, ← scaled]
    push_cast
    rw [one_mul, mul_div_assoc, div_self (pow_ne_zero _ (by norm_num)), mul_one]
  · have digits := digits_of_no_point within point
    have all : run.takeWhile Char.isDigit = run := List.takeWhile_eq_self_iff.mpr digits
    rw [literalIn, if_neg point, denotedValue, filter_of_digits digits, all, foldDigits_rational]

/-- In doubles the scanner computes the value of a literal, unless the exponent overflows. -/
theorem literalValue_eq (short : run.length < 2 ^ 31) :
    literalValue run = literalIn Float.ofNat run := by
  have one : (1.0 : Float) = Float.ofNat 1 := by decide
  have ten : (10.0 : Float) = Float.ofNat 10 := by decide
  by_cases point : '.' ∈ run
  · obtain ⟨whole, fraction, rfl, before, behind⟩ := exists_parts within once point
    have small : fraction.length < 2 ^ 31 := by
      rw [List.length_append, List.length_cons] at short
      omega
    rw [literalValue, literalIn, if_pos point, if_pos (List.contains_iff_mem.mpr point),
      dropWhile_parts before, digitsBehindPoint_parts before behind, List.length_cons,
      Nat.add_sub_cancel, Number.powerOfTen_ofNat small, one, ten]
  · rw [literalValue, literalIn, if_neg point, if_neg (mt List.contains_iff_mem.mp point)]

end

/-! ## Reading a literal -/

theorem not_isBlank_of_isNumberChar {c : Char} (within : isNumberChar c = true) :
    isBlank c = false := by
  rcases Bool.or_eq_true_iff.mp within with digit | point
  · have low : 48 ≤ c.toNat := (Char.isDigit_iff_toNat.mp digit).1
    have high : c.toNat ≤ 57 := (Char.isDigit_iff_toNat.mp digit).2
    have space : (c == ' ') = false := by
      refine beq_eq_false_iff_ne.mpr ?_
      rintro rfl
      cases digit
    have control : (decide (9 ≤ c.toNat) && decide (c.toNat ≤ 13)) = false := by
      simp only [Bool.and_eq_false_iff, decide_eq_false_iff_not]
      omega
    rw [isBlank, if_pos (by omega), space, control]
    rfl
  · rw [eq_of_beq point]
    rfl

/-- A literal of points alone is a single point, or one with too many. -/
theorem all_points_iff {run : List Char} (present : run ≠ []) (once : run.count '.' < 2) :
    run.all (· == '.') = true ↔ run = ['.'] := by
  constructor
  · intro all
    have points : run = List.replicate run.length '.' :=
      List.eq_replicate_of_mem fun c member => eq_of_beq (List.all_eq_true.mp all c member)
    have length : run.length = 1 := by
      have some := List.length_pos_iff.mpr present
      rw [points, List.count_replicate_self] at once
      omega
    rw [points, length]
    rfl
  · rintro rfl
    rfl

section

variable {run behind : List Char} (present : run ≠ [])
  (within : ∀ c ∈ run, isNumberChar c = true)
  (longest : ∀ c, behind.head? = some c → isNumberChar c = false)
include present within longest

/-- What is made of the longest run of digits and points in front of a place. -/
theorem readNumber_of_run (short : run.length < 2 ^ 31) (pos : Nat) :
    readNumber ⟨pos, run ++ behind⟩ =
      if 2 ≤ run.count '.' then .error (.twoPoints pos)
      else if run = ['.'] then .error (.noDigits pos)
      else .ok (literalIn Float.ofNat run, ⟨pos + run.length, behind⟩) := by
  have ended : behind.takeWhile isNumberChar = [] := by
    cases behind with
    | nil => rfl
    | cons c rest => exact List.takeWhile_cons_of_neg (by simp [longest c rfl])
  have taken : (run ++ behind).takeWhile isNumberChar = run := by
    rw [List.takeWhile_append_of_pos within, ended, List.append_nil]
  rw [readNumber, taken]
  by_cases twice : 2 ≤ run.count '.'
  · rw [if_pos twice, if_pos twice]
  · have once : run.count '.' < 2 := not_le.mp twice
    rw [if_neg twice, if_neg twice, literalValue_eq within once short, Cursor.advance,
      List.drop_left]
    simp only [all_points_iff present once]

/-- The scanner in front of a literal. -/
theorem Scanner.step_of_run {s : Scanner} (ahead : s.cursor.ahead = run ++ behind)
    (short : run.length < 2 ^ 31) (setting : Setting) (store : Store) :
    s.step setting store =
      if 2 ≤ run.count '.' then (.error (.twoPoints s.cursor.pos), store)
      else if run = ['.'] then (.error (.noDigits s.cursor.pos), store)
      else (.ok (.more (s.add (.value (.number (literalIn Float.ofNat run)))
        ⟨s.cursor.pos + run.length, behind⟩)), store) := by
  have place : s.cursor = ⟨s.cursor.pos, run ++ behind⟩ := by rw [← ahead]
  obtain ⟨c, rest, rfl⟩ := List.exists_cons_of_ne_nil present
  have first : isNumberChar c = true := within c List.mem_cons_self
  have read := readNumber_of_run present within longest short s.cursor.pos
  rw [← place] at read
  simp only [step, ahead, List.cons_append, not_isBlank_of_isNumberChar first, first,
    Bool.false_eq_true, if_false, if_true, read]
  split_ifs <;> rfl

end

/-- Number literals are read and computed.  In front of the longest run of digits and points, if its
length is a 32-bit integer, the scanner fails with code 190 exactly if the run has two points or
more, and with code 191 exactly if it is a single point.  Otherwise it takes exactly the run and adds
the number that comes of folding its digits in doubles and dividing by ten to the number of digits
behind the point.  In rational numbers the same computation gives the decimal that the run denotes. -/
theorem number_literals_denote_decimals (setting : Setting) (s : Scanner) (store : Store)
    (run behind : List Char) (ahead : s.cursor.ahead = run ++ behind) (present : run ≠ [])
    (within : ∀ c ∈ run, isNumberChar c = true)
    (longest : ∀ c, behind.head? = some c → isNumberChar c = false) (short : run.length < 2 ^ 31) :
    ((∃ fault, s.step setting store = (.error fault, store) ∧ fault.code.number = 190) ↔
      2 ≤ run.count '.') ∧
    ((∃ fault, s.step setting store = (.error fault, store) ∧ fault.code.number = 191) ↔
      run = ['.']) ∧
    (run.count '.' < 2 → run ≠ ['.'] →
      s.step setting store = (.ok (.more (s.add (.value (.number (literalIn Float.ofNat run)))
          ⟨s.cursor.pos + run.length, behind⟩)), store) ∧
        literalIn (Nat.cast : ℕ → ℚ) run = denotedValue run) := by
  have stepped := Scanner.step_of_run present within longest ahead short setting store
  have fails {given : Fault} (failed : s.step setting store = (.error given, store)) (n : Nat) :
      (∃ fault, s.step setting store = (.error fault, store) ∧ fault.code.number = n) ↔
        given.code.number = n := by
    refine ⟨?_, fun code => ⟨given, failed, code⟩⟩
    rintro ⟨fault, again, code⟩
    cases failed.symm.trans again
    exact code
  by_cases twice : 2 ≤ run.count '.'
  · rw [if_pos twice] at stepped
    have several : run ≠ ['.'] := by
      rintro rfl
      exact absurd twice (by decide)
    exact ⟨(fails stepped 190).trans (iff_of_true rfl twice),
      (fails stepped 191).trans (iff_of_false nofun several),
      fun once => absurd twice (not_le.mpr once)⟩
  · by_cases single : run = ['.']
    · rw [if_neg twice, if_pos single] at stepped
      exact ⟨(fails stepped 190).trans (iff_of_false nofun twice),
        (fails stepped 191).trans (iff_of_true rfl single), fun _ more => absurd single more⟩
    · rw [if_neg twice, if_neg single] at stepped
      have succeeds (fault : Fault) : s.step setting store ≠ (.error fault, store) := by
        intro failed
        cases stepped.symm.trans failed
      refine ⟨iff_of_false ?_ twice, iff_of_false ?_ single, fun once _ => ⟨stepped, ?_⟩⟩
      · exact fun ⟨fault, failed, _⟩ => succeeds fault failed
      · exact fun ⟨fault, failed, _⟩ => succeeds fault failed
      · exact literalIn_rational within once

/-- The literal in `(.75)`, whose point stands first. -/
theorem number_literals_denote_decimals_fraction :
    let s : Scanner := ⟨⟨1, ".75)".toList⟩, .empty, [⟨.group 0, .empty⟩]⟩
    s.step ⟨⟨0⟩, 1⟩ .empty =
      (.ok (.more (s.add (.value (.number (literalIn Float.ofNat ".75".toList))) ⟨4, [')']⟩)),
        .empty) ∧
      literalIn Float.ofNat ".75".toList = 0.75 ∧
      literalIn (Nat.cast : ℕ → ℚ) ".75".toList = 3 / 4 := by
  intro s
  have longest : ∀ c, [')'].head? = some c → isNumberChar c = false := by
    rintro c ⟨⟩
    rfl
  have within : ∀ c ∈ ".75".toList, isNumberChar c = true := List.all_eq_true.mp (by decide)
  obtain ⟨_, _, reads⟩ := number_literals_denote_decimals ⟨⟨0⟩, 1⟩ s .empty ".75".toList [')'] rfl
    (by decide) within longest (by decide)
  obtain ⟨stepped, denotes⟩ := reads (by decide) (by decide)
  refine ⟨stepped, ?_, denotes.trans ?_⟩
  · rw [literalIn, if_pos (by decide), Number.squaringPower, Number.squaringPower]
    decide +kernel
  · have value : denotedValue ".75".toList = decimal ['7', '5'] 0 := rfl
    have seven : digitValue '7' = 7 := rfl
    have five : digitValue '5' = 5 := rfl
    rw [value, decimal_cons, decimal_cons, decimal_nil, seven, five]
    norm_num

end Scriptlet
