import Scriptlet.Script
set_option autoImplicit false

/-!
# Scripts that stop and scripts that go on

A script stops at a failing line, or notes the failure and goes on.  A script that has stopped can
be taken up again behind the failing line.  Done until nothing fails any more, this comes to the
same failures in the same order, the same store and the same number of lines as going on does.
Which lines fail is settled by the lines alone, each interpreted in the store that the lines before
it have left.
-/

namespace Scriptlet

/-! ## Lines of a text and lines of its bytes -/

/-- The byte of a line feed occurs in no encoding but that of a line feed. -/
theorem lineFeed_not_mem_utf8EncodeChar {c : Char} (other : c ≠ '\n') :
    (10 : UInt8) ∉ String.utf8EncodeChar c := by
  intro mem
  have code : c.val.toNat ≠ 10 := fun same => other (Char.ext (UInt32.toNat_inj.mp same))
  have spelled : c.toNat = c.val.toNat := rfl
  unfold String.utf8EncodeChar at mem
  dsimp only at mem
  -- one case for each length; all bytes of the longer encodings are at least 128
  split at mem
  · simp [← UInt8.toNat_inj] at mem
    omega
  · split at mem
    · simp [← UInt8.toNat_inj] at mem
      omega
    · split at mem <;>
      · simp [← UInt8.toNat_inj] at mem
        omega

/-- Items in front of a cut list, none of which ends a piece, join its first piece. -/
theorem splitAfter_append {α : Type} {ends : α → Bool} {front : List α} (some_front : front ≠ [])
    (inside : ∀ a ∈ front, ends a = false) (rest : List α) :
    splitAfter ends (front ++ rest) =
      (front ++ (splitAfter ends rest).headD []) :: (splitAfter ends rest).tail := by
  induction front with
  | nil => exact absurd rfl some_front
  | cons a front ih =>
    have here : ends a = false := inside a List.mem_cons_self
    rw [List.cons_append, splitAfter, here]
    cases front with
    | nil =>
      rw [List.nil_append]
      cases splitAfter ends rest <;> simp
    | cons b front =>
      rw [ih (List.cons_ne_nil b front) fun c mem => inside c (List.mem_cons_of_mem a mem)]
      simp

/-- The bytes of a text are cut where the text is. -/
theorem splitAfter_flatMap_utf8 (chars : List Char) :
    splitAfter (· == (10 : UInt8)) (chars.flatMap String.utf8EncodeChar) =
      (splitAfter (· == '\n') chars).map (·.flatMap String.utf8EncodeChar) := by
  induction chars with
  | nil => rfl
  | cons c chars ih =>
    rw [List.flatMap_cons]
    by_cases feed : c = '\n'
    · subst feed
      have encoded : String.utf8EncodeChar '\n' = [10] := by decide
      simp [encoded, splitAfter, ih]
    · have inside : ∀ b ∈ String.utf8EncodeChar c, (b == (10 : UInt8)) = false := by
        intro b mem
        exact beq_false_of_ne fun same => lineFeed_not_mem_utf8EncodeChar feed (same ▸ mem)
      rw [splitAfter_append String.utf8EncodeChar_ne_nil inside, ih, splitAfter,
        if_neg (by simpa using feed)]
      cases splitAfter (· == '\n') chars <;> simp

/-- The bytes of characters are read back as these characters. -/
theorem fromUTF8?_flatMap_utf8 (chars : List Char) :
    String.fromUTF8? ⟨(chars.flatMap String.utf8EncodeChar).toArray⟩ =
      some (String.ofList chars) := by
  have bytes : (⟨(chars.flatMap String.utf8EncodeChar).toArray⟩ : ByteArray) =
      (String.ofList chars).toByteArray := by
    apply ByteArray.ext
    rw [String.toByteArray_ofList, List.utf8Encode, List.data_toByteArray]
  rw [bytes, String.fromUTF8?, dif_pos (String.isValidUTF8 _)]
  rfl

/-- A text read from its bytes has the lines of the text. -/
theorem Input.ofBytes_toUTF8 (text : String) : ofBytes text.toUTF8.data.toList = ofText text := by
  have bytes : text.toUTF8.data.toList = text.toList.flatMap String.utf8EncodeChar := by
    rw [String.toUTF8_eq_toByteArray, ← String.utf8Encode_toList, List.utf8Encode,
      List.data_toByteArray]
  rw [ofBytes, ofText, textLines, bytes, splitAfter_flatMap_utf8, List.map_map, List.map_map]
  congr 2
  funext line
  exact fromUTF8?_flatMap_utf8 line

/-! ## What the lines alone settle -/

section

variable (options : Options) (home : ScopeId)

/-- The store that lines leave, each interpreted whether or not the lines before it failed. -/
def leftBy (store : Store) (lines : List String) : Store :=
  lines.foldl (fun store line => (interpret options home (withoutLineEnd line) store).2) store

/-- The failing ones among lines that come behind a number of other lines. -/
def failuresBehind (number : Nat) (store : Store) : List String → List (Nat × Fault)
  | [] => []
  | line :: rest =>
    match interpret options home (withoutLineEnd line) store with
    | (.ok _, after) => failuresBehind (number + 1) after rest
    | (.error fault, after) => (number + 1, fault) :: failuresBehind (number + 1) after rest

variable {options home} {number : Nat} {store after : Store} {line : String}

theorem failuresBehind_cons_ok {values : List Value}
    (run : interpret options home (withoutLineEnd line) store = (.ok values, after))
    (rest : List String) :
    failuresBehind options home number store (line :: rest) =
      failuresBehind options home (number + 1) after rest := by
  rw [failuresBehind, run]

theorem failuresBehind_cons_error {fault : Fault}
    (run : interpret options home (withoutLineEnd line) store = (.error fault, after))
    (rest : List String) :
    failuresBehind options home number store (line :: rest) =
      (number + 1, fault) :: failuresBehind options home (number + 1) after rest := by
  rw [failuresBehind, run]

theorem leftBy_cons {result : Except Fault (List Value)}
    (run : interpret options home (withoutLineEnd line) store = (result, after))
    (rest : List String) :
    leftBy options home store (line :: rest) = leftBy options home after rest := by
  rw [leftBy, List.foldl_cons, run, leftBy]

/-- Of the options only the limit on nesting has a part in interpreting a line. -/
theorem interpret_maxDepth {other : Options} (limits : other.maxDepth = options.maxDepth) :
    interpret other = interpret options := by
  funext home line
  rw [interpret, interpret, limits]

theorem leftBy_maxDepth {other : Options} (limits : other.maxDepth = options.maxDepth)
    (store : Store) (lines : List String) :
    leftBy other home store lines = leftBy options home store lines := by
  rw [leftBy, leftBy, interpret_maxDepth limits]

theorem failuresBehind_maxDepth {other : Options} (limits : other.maxDepth = options.maxDepth)
    (number : Nat) (store : Store) (lines : List String) :
    failuresBehind other home number store lines =
      failuresBehind options home number store lines := by
  induction lines generalizing number store with
  | nil => rfl
  | cons line rest ih =>
    rw [failuresBehind, failuresBehind, interpret_maxDepth limits]
    simp only [ih]

theorem failuresBehind_errorPolicy (policy : ErrorPolicy) (lines : List String) :
    failuresBehind { options with errorPolicy := policy } home number store lines =
      failuresBehind options home number store lines := by
  apply failuresBehind_maxDepth
  rfl

theorem leftBy_errorPolicy (policy : ErrorPolicy) (lines : List String) :
    leftBy { options with errorPolicy := policy } home store lines =
      leftBy options home store lines := by
  apply leftBy_maxDepth
  rfl

/-- Failures carry the numbers of the lines they are looked for in. -/
theorem bounds_of_mem_failuresBehind {lines : List String} {failure : Nat × Fault}
    (mem : failure ∈ failuresBehind options home number store lines) :
    number < failure.1 ∧ failure.1 ≤ number + lines.length := by
  induction lines generalizing number store with
  | nil => exact absurd mem List.not_mem_nil
  | cons line rest ih =>
    rw [List.length_cons]
    rcases run : interpret options home (withoutLineEnd line) store with ⟨_ | _, after⟩
    · rw [failuresBehind_cons_error run] at mem
      rcases List.mem_cons.mp mem with rfl | behind
      · constructor <;> dsimp only <;> omega
      · have := ih behind
        omega
    · rw [failuresBehind_cons_ok run] at mem
      have := ih mem
      omega

theorem pairwise_failuresBehind (lines : List String) :
    (failuresBehind options home number store lines).Pairwise (·.1 < ·.1) := by
  induction lines generalizing number store with
  | nil => exact .nil
  | cons line rest ih =>
    rcases run : interpret options home (withoutLineEnd line) store with ⟨_ | _, after⟩
    · rw [failuresBehind_cons_error run]
      exact .cons (fun _ mem => (bounds_of_mem_failuresBehind mem).1) ih
    · rw [failuresBehind_cons_ok run]
      exact ih

/-- A line is among the failing ones exactly when it fails in the store that the lines before it
have left. -/
theorem mem_failuresBehind_iff (number : Nat) {lines : List String} {k : Nat} {fault : Fault} :
    (number + k + 1, fault) ∈ failuresBehind options home number store lines ↔
      ∃ line, lines[k]? = some line ∧
        (interpret options home (withoutLineEnd line)
          (leftBy options home store (lines.take k))).1 = .error fault := by
  induction lines generalizing number store k with
  | nil => simp [failuresBehind]
  | cons line rest ih =>
    rcases run : interpret options home (withoutLineEnd line) store with ⟨result, after⟩
    have later : ∀ k, (number + 1 + k + 1, fault) ∈
        failuresBehind options home number store (line :: rest) ↔
          (number + 1 + k + 1, fault) ∈ failuresBehind options home (number + 1) after rest := by
      intro k
      cases result with
      | ok values => rw [failuresBehind_cons_ok run]
      | error failed =>
        have other : (number + 1 + k + 1, fault) ≠ (number + 1, failed) := by
          intro same
          have := congrArg Prod.fst same
          dsimp only at this
          omega
        rw [failuresBehind_cons_error run, List.mem_cons, or_iff_right other]
    cases k with
    | zero =>
      -- the numbers behind this line are greater than its own
      have behind : (number + 1, fault) ∉ failuresBehind options home (number + 1) after rest :=
        fun mem => absurd (bounds_of_mem_failuresBehind mem).1 (Nat.lt_irrefl _)
      cases result with
      | ok values => simp [failuresBehind_cons_ok run, behind, leftBy, run]
      | error failed => simp [failuresBehind_cons_error run, behind, leftBy, run, eq_comm]
    | succ k =>
      rw [← Nat.add_assoc, Nat.add_right_comm number k 1, later k, ih, List.getElem?_cons_succ,
        List.take_succ_cons, leftBy_cons run]

end

/-! ## Going on -/

namespace Script

variable {s : Script}

/-- A script that goes on reports every failing line. -/
theorem runLines_continue (policy : s.options.errorPolicy = .continue) (count : Nat)
    (failed : List (Nat × Fault)) (store : Store) (lines : List String) :
    s.runLines count failed store (lines.map some) =
      (.ok ⟨count + lines.length,
          failed.reverse ++ failuresBehind s.options s.home s.line store lines⟩,
        { s with input := .lines [], line := s.line + lines.length },
        leftBy s.options s.home store lines) := by
  induction lines generalizing s count failed store with
  | nil => simp [runLines, failuresBehind, leftBy]
  | cons line rest ih =>
    rw [List.map_cons, runLines]
    rcases run : interpret s.options s.home (withoutLineEnd line) store with ⟨fault | _, after⟩
    · simp only [policy]
      rw [ih (s := s.afterLine _) policy, failuresBehind_cons_error run, leftBy_cons run]
      simp [afterLine, Nat.add_assoc, Nat.add_comm 1]
    · dsimp only
      rw [ih (s := s.afterLine _) policy, failuresBehind_cons_ok run, leftBy_cons run]
      simp [afterLine, Nat.add_assoc, Nat.add_comm 1]

/-! ## Stopping and taking up again -/

/-- A script that stops at a failing line has used it up. -/
theorem remaining_runLines {count : Nat} {failed : List (Nat × Fault)} {store : Store}
    {ahead : List (Option String)} {number : Nat} {fault : Fault} {later : Script} {after : Store}
    (run : s.runLines count failed store ahead = (.error (.line number fault), later, after)) :
    later.input.remaining < ahead.length := by
  induction ahead generalizing s count failed store with
  | nil => cases run
  | cons line rest ih =>
    rw [List.length_cons]
    cases line with
    | none => cases run
    | some text =>
      rw [runLines] at run
      split at run
      · exact Nat.lt_succ_of_lt (ih run)
      · split at run
        · exact Nat.lt_succ_of_lt (ih run)
        · cases run
          exact Nat.lt_succ_self _

theorem remaining_all {store after : Store} {number : Nat} {fault : Fault} {later : Script}
    (run : s.all store = (.error (.line number fault), later, after)) :
    later.input.remaining < s.input.remaining := by
  rw [all] at run
  split at run
  next ahead lines =>
    rw [lines]
    exact remaining_runLines run
  next => cases run

/-- Interprets all further lines again and again until no line fails, and gives the result of each
time. -/
def attempts (s : Script) (store : Store) : List (Except ScriptFault Report) × Script × Store :=
  match run : s.all store with
  | (.error (.line number fault), later, after) =>
    have := remaining_all run
    let others := later.attempts after
    (.error (.line number fault) :: others.1, others.2)
  | (result, later, after) => ([result], later, after)
termination_by s.input.remaining

/-- What becomes of one attempt: behind a failing line the script is taken up again. -/
def takeUp : Except ScriptFault Report × Script × Store →
    List (Except ScriptFault Report) × Script × Store
  | (.error (.line number fault), later, after) =>
    (.error (.line number fault) :: (later.attempts after).1, (later.attempts after).2)
  | (result, later, after) => ([result], later, after)

theorem attempts_eq (s : Script) (store : Store) : s.attempts store = takeUp (s.all store) := by
  rw [attempts]
  split
  next number fault later after run =>
    dsimp only
    rw [run, takeUp]
  next result later after goesOn run =>
    rw [run, takeUp]
    exact goesOn

/-- A script that stops and is taken up again fails on every failing line in its turn.  The last
attempt reads the lines behind the last of them, or behind line `first` where this attempt began. -/
theorem takeUp_runLines_abort (policy : s.options.errorPolicy = .abort) (first : Nat)
    {count : Nat} (began : s.line = first + count) (store : Store) (lines : List String) :
    takeUp (s.runLines count [] store (lines.map some)) =
      ((failuresBehind s.options s.home s.line store lines).map
          (fun failure => .error (.line failure.1 failure.2)) ++
        [.ok ⟨s.line + lines.length -
          ((failuresBehind s.options s.home s.line store lines).map (·.1)).getLastD first, []⟩],
        { s with input := .lines [], line := s.line + lines.length },
        leftBy s.options s.home store lines) := by
  induction lines generalizing s first count store with
  | nil => simp [runLines, takeUp, failuresBehind, leftBy, began]
  | cons line rest ih =>
    rw [List.map_cons, runLines]
    rcases run : interpret s.options s.home (withoutLineEnd line) store with ⟨fault | _, after⟩
    · simp only [policy]
      have behind := ih (s := s.afterLine (.lines (rest.map some))) policy (s.line + 1)
        (Nat.add_zero (s.line + 1)).symm after
      rw [takeUp, attempts_eq, all]
      simp only [afterLine] at behind ⊢
      rw [behind, failuresBehind_cons_error run, leftBy_cons run]
      simp only [List.map_cons, List.cons_append, List.getLastD_cons, List.length_cons,
        Nat.add_assoc, Nat.add_comm 1]
    · dsimp only
      have going : s.line + 1 = first + (count + 1) := by omega
      rw [ih (s := s.afterLine _) policy first going,
        failuresBehind_cons_ok run, leftBy_cons run]
      simp [afterLine, Nat.add_assoc, Nat.add_comm 1]

end Script

/-- Going on and stopping see the same failures.  For the bytes of any text, a script that goes on
reports every failing line at once; a script that stops, taken up again until nothing fails, stops
once for each of these failures, in their order.  Both end in the same store, with what was printed
in it, and have read all lines.  The failures are numbered upwards, and a line is among them exactly
when it fails in the store left by the lines before it. -/
theorem attempts_abort_eq_failures_continue (text : String) (home : ScopeId) (options : Options)
    (store : Store) :
    let bytes := text.toUTF8.data.toList
    let lines := textLines text
    let script policy := Script.start (.ofBytes bytes) home { options with errorPolicy := policy }
    let ended policy := { script policy with input := .lines [], line := lines.length }
    ∃ failures last,
      (script .continue).all store = (.ok ⟨lines.length, failures⟩, ended .continue, last) ∧
      (script .abort).attempts store =
        (failures.map (fun failure => .error (.line failure.1 failure.2)) ++
          [.ok ⟨lines.length - (failures.map (·.1)).getLastD 0, []⟩], ended .abort, last) ∧
      last = leftBy options home store lines ∧
      failures.Pairwise (·.1 < ·.1) ∧
      (∀ failure ∈ failures, 1 ≤ failure.1 ∧ failure.1 ≤ lines.length) ∧
      ∀ k fault, (k + 1, fault) ∈ failures ↔
        ∃ line, lines[k]? = some line ∧
          (interpret options home (withoutLineEnd line)
            (leftBy options home store (lines.take k))).1 = .error fault := by
  intro bytes lines script ended
  have input : Input.ofBytes bytes = .lines (lines.map some) := Input.ofBytes_toUTF8 text
  have all : ∀ policy,
      (script policy).all store = (script policy).runLines 0 [] store (lines.map some) := by
    intro policy
    simp only [Script.all, script, Script.start, input]
  have failing : ∀ policy,
      failuresBehind (script policy).options (script policy).home (script policy).line store lines =
        failuresBehind options home 0 store lines :=
    fun policy => failuresBehind_errorPolicy policy lines
  have left : ∀ policy,
      leftBy (script policy).options (script policy).home store lines =
        leftBy options home store lines :=
    fun policy => leftBy_errorPolicy policy lines
  have read : ∀ policy, (script policy).line + lines.length = lines.length :=
    fun _ => Nat.zero_add lines.length
  refine ⟨failuresBehind options home 0 store lines, leftBy options home store lines, ?_, ?_, rfl,
    pairwise_failuresBehind lines, ?_, ?_⟩
  · rw [all, Script.runLines_continue rfl, failing, left, read, Nat.zero_add, List.reverse_nil,
      List.nil_append]
  · rw [Script.attempts_eq, all, Script.takeUp_runLines_abort rfl 0 (Nat.zero_add 0).symm, failing,
      left, read]
  · intro failure mem
    have := bounds_of_mem_failuresBehind mem
    omega
  · intro k fault
    rw [← mem_failuresBehind_iff 0, Nat.zero_add]

end Scriptlet
