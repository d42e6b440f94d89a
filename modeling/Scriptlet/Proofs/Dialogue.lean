import Mathlib.Data.List.TakeWhile
import Scriptlet.Console
import Scriptlet.Proofs.Renaming
import Scriptlet.Proofs.Scripts
set_option autoImplicit false

/-!
# Sessions and scripts on one text

A session reads a text line by line as a script does that goes on after failing lines.  Both leave
the same store, and what the session shows for a line is the failure that the script reports for it,
or its values.  A session may be asked for one turn at a time or for all that are left; however
these requests follow one another, it has written the same when it is closed, and afterwards it does
nothing any more.
-/

namespace Scriptlet

/-! ## Turns and requests -/

namespace Console

variable {c rest : Console} {store after : Store} {turn : Turn}

theorem all_of_goesOn (taken : c.next store = (turn, rest, after))
    (going : turn.goesOn = .ok true) :
    c.all store = ((turn.prompt ++ turn.answer ++ (rest.all after).1.1, (rest.all after).1.2),
      (rest.all after).2) := by
  rw [all]
  split
  next turn' rest' after' taken' =>
    cases taken.symm.trans taken'
    split
    next failed => cases going.symm.trans failed
    next ended => cases going.symm.trans ended
    next => rfl

theorem all_of_ended (taken : c.next store = (turn, rest, after))
    (ended : turn.goesOn = .ok false) :
    c.all store = ((turn.prompt ++ turn.answer, .ok ()), rest, after) := by
  rw [all]
  split
  next turn' rest' after' taken' =>
    cases taken.symm.trans taken'
    split
    next failed => cases ended.symm.trans failed
    next => rfl
    next going => cases ended.symm.trans going

theorem all_of_failed {fault : DeviceFault} (taken : c.next store = (turn, rest, after))
    (failed : turn.goesOn = .error fault) :
    c.all store = ((turn.prompt ++ turn.answer, .error fault), rest, after) := by
  rw [all]
  split
  next turn' rest' after' taken' =>
    cases taken.symm.trans taken'
    split
    next other =>
      cases failed.symm.trans other
      rfl
    next ended => cases failed.symm.trans ended
    next going => cases failed.symm.trans going

theorem next_of_closed (closed : c.closed = true) (store : Store) :
    c.next store = (⟨"", "", .ok false⟩, c, store) := by
  rw [next, if_pos closed]

theorem all_of_closed (closed : c.closed = true) (store : Store) :
    c.all store = (("", .ok ()), c, store) :=
  all_of_ended (next_of_closed closed store) rfl

/-- A turn after which the session does not go on, though nothing failed, has closed it. -/
theorem closed_of_ended (taken : c.next store = (turn, rest, after))
    (ended : turn.goesOn = .ok false) : rest.closed = true := by
  unfold next at taken
  simp only at taken
  split at taken
  · cases taken
    assumption
  split at taken
  · cases taken; cases ended
  split at taken
  · cases taken; cases ended
  · cases taken; rfl
  · split at taken
    · cases taken; rfl
    split at taken
    · cases taken; cases ended
    · cases taken; cases ended

/-- What a session can be asked for. -/
inductive Request where
  /-- one turn -/
  | next
  /-- all turns that are left -/
  | all

/-- What a session writes when it is asked, and what it is like afterwards. -/
def take (c : Console) (store : Store) : Request → String × Console × Store
  | .next =>
    let (turn, rest, after) := c.next store
    (turn.prompt ++ turn.answer, rest, after)
  | .all =>
    let ((text, _), rest, after) := c.all store
    (text, rest, after)

/-- All that a session writes when it is asked again and again. -/
def takeAll (c : Console) (store : Store) : List Request → String × Console × Store
  | [] => ("", c, store)
  | request :: later =>
    let (text, rest, after) := c.take store request
    let (more, last) := rest.takeAll after later
    (text ++ more, last)

theorem takeAll_cons {text : String} {request : Request}
    (taken : c.take store request = (text, rest, after)) (later : List Request) :
    c.takeAll store (request :: later) =
      (text ++ (rest.takeAll after later).1, (rest.takeAll after later).2) := by
  rw [takeAll, taken]

/-- A closed session does nothing. -/
theorem takeAll_of_closed (closed : c.closed = true) (store : Store) (requests : List Request) :
    c.takeAll store requests = ("", c, store) := by
  induction requests with
  | nil => rfl
  | cons request later ih =>
    have taken : c.take store request = ("", c, store) := by
      cases request with
      | next => rw [take, next_of_closed closed]; rfl
      | all => rw [take, all_of_closed closed]
    rw [takeAll_cons taken, ih]
    rfl

/-- A session that ends without a failing device is closed then. -/
theorem closed_of_all {text : String} {last : Console}
    (all : c.all store = ((text, .ok ()), last, after)) : last.closed = true := by
  -- Each turn after which the session goes on has used up a line.
  induction left : c.input.remaining using Nat.strongRecOn generalizing c store text with
  | ind _ ih =>
    rcases taken : c.next store with ⟨turn, rest, between⟩
    rcases goesOn : turn.goesOn with fault | _ | _
    · rw [all_of_failed taken goesOn] at all
      cases all
    · rw [all_of_ended taken goesOn] at all
      cases all
      exact closed_of_ended taken goesOn
    · have shorter := next_shorter taken goesOn
      rw [all_of_goesOn taken goesOn] at all
      rcases later : rest.all between with ⟨⟨more, result⟩, final⟩
      rw [later] at all
      cases all
      exact ih _ (left ▸ shorter) later rfl

/-- Whatever a session is asked for, it goes on to where it would have come anyway, and writes a
part of what it would have written. -/
theorem all_take {text : String} {last : Console}
    (all : c.all store = ((text, .ok ()), last, after)) (request : Request) :
    ∃ more, (c.take store request).2.1.all (c.take store request).2.2 =
        ((more, .ok ()), last, after) ∧ (c.take store request).1 ++ more = text := by
  have finished : last.all after = (("", .ok ()), last, after) :=
    all_of_closed (closed_of_all all) after
  cases request with
  | all =>
    simp only [take, all]
    exact ⟨"", finished, String.append_empty⟩
  | next =>
    rcases taken : c.next store with ⟨turn, rest, between⟩
    simp only [take, taken]
    rcases goesOn : turn.goesOn with fault | _ | _
    · rw [all_of_failed taken goesOn] at all
      cases all
    · rw [all_of_ended taken goesOn] at all
      cases all
      exact ⟨"", finished, String.append_empty⟩
    · rw [all_of_goesOn taken goesOn] at all
      rcases later : rest.all between with ⟨⟨more, result⟩, final⟩
      rw [later] at all
      cases all
      exact ⟨more, rfl, rfl⟩

/-- Requests that end with the session closed come to the same as asking for all turns at once. -/
theorem takeAll_of_closes {text : String} {last : Console}
    (all : c.all store = ((text, .ok ()), last, after)) {requests : List Request}
    (closes : (c.takeAll store requests).2.1.closed = true) :
    c.takeAll store requests = (text, last, after) := by
  induction requests generalizing c store text with
  | nil =>
    have closed : c.closed = true := closes
    rw [all_of_closed closed] at all
    cases all
    rfl
  | cons request later ih =>
    obtain ⟨more, goesOn, written⟩ := all_take all request
    rcases taken : c.take store request with ⟨first, rest, between⟩
    rw [taken] at goesOn written
    rw [takeAll_cons taken] at closes ⊢
    rw [ih goesOn closes, written]

end Console

/-! ## Exit commands -/

theorem isBlank_of_lineEnd {c : Char} (ends : (c == '\n' || c == '\r') = true) :
    isBlank c = true := by
  rw [Bool.or_eq_true, beq_iff_eq, beq_iff_eq] at ends
  rcases ends with rfl | rfl <;> decide

/-- White space that was taken off the end makes no difference to a trimmed text. -/
theorem trimBlank_dropTrailing {drop : Char → Bool} (blank : ∀ c, drop c = true → isBlank c = true)
    (text : List Char) : trimBlank (dropTrailing drop text) = trimBlank text := by
  obtain ⟨tail, parts, dropped, _⟩ := dropTrailing_eq_iff.mp (Eq.refl (dropTrailing drop text))
  have spaces : ∀ c ∈ tail, isBlank c = true := fun c mem => blank c (dropped c mem)
  generalize dropTrailing drop text = front at parts ⊢
  rw [trimBlank, trimBlank, parts, List.dropWhile_append]
  split
  next empty =>
    rw [List.isEmpty_iff.mp empty, List.dropWhile_eq_nil_iff.mpr spaces]
  next => rw [dropTrailing_append spaces]

theorem Console.isExit_withoutLineEnd (options : Options) (line : String) :
    isExit options (withoutLineEnd line) =
      (String.ofList (trimBlank line.toList) == options.exitCommand) := by
  rw [isExit, withoutLineEnd, String.toList_ofList,
    trimBlank_dropTrailing fun _ => isBlank_of_lineEnd]

/-! ## The lines of a text -/

section

variable (options : Options) (home : ScopeId)

/-- What a session shows for lines, each behind its prompt. -/
def answersTo (store : Store) : List String → List String
  | [] => []
  | line :: rest =>
    let (outcome, after) := interpret options home (withoutLineEnd line) store
    Console.answer options outcome after :: answersTo after rest

/-- All that a session writes for lines: a prompt before each answer, and one at the end. -/
def dialogue (answers : List String) : String :=
  String.join (answers.map (options.prompt ++ ·)) ++ options.prompt

end

variable {options : Options} {home : ScopeId}

theorem dialogue_cons (answer : String) (answers : List String) :
    dialogue options (answer :: answers) =
      options.prompt ++ answer ++ dialogue options answers := by
  rw [dialogue, List.map_cons, String.join_cons, String.append_assoc, dialogue]

theorem length_answersTo (store : Store) (lines : List String) :
    (answersTo options home store lines).length = lines.length := by
  induction lines generalizing store with
  | nil => rfl
  | cons line rest ih => rw [answersTo, List.length_cons, List.length_cons, ih]

/-- The answer to a line is that to its outcome in the store left by the lines before it. -/
theorem getElem?_answersTo {store after : Store} {lines : List String} {k : Nat} {line : String}
    {outcome : Except Fault (List Value)} (found : lines[k]? = some line)
    (run : interpret options home (withoutLineEnd line)
      (leftBy options home store (lines.take k)) = (outcome, after)) :
    (answersTo options home store lines)[k]? = some (Console.answer options outcome after) := by
  induction lines generalizing store k with
  | nil => cases found
  | cons first rest ih =>
    cases k with
    | zero =>
      cases found
      have here : interpret options home (withoutLineEnd line) store = (outcome, after) := run
      rw [answersTo, here]
      rfl
    | succ k =>
      rcases here : interpret options home (withoutLineEnd first) store with ⟨_, between⟩
      rw [List.take_succ_cons, leftBy_cons here] at run
      rw [answersTo, here, List.getElem?_cons_succ]
      exact ih found run

/-- A session on lines that do not ask it to end answers each of them and ends behind the last. -/
theorem Console.all_lines {c : Console} (opened : c.closed = false) (working : c.broken = false)
    {lines : List String}
    (goesOn : ∀ line ∈ lines, isExit c.options (withoutLineEnd line) = false)
    (reads : c.input = .lines (lines.map some)) (store : Store) :
    c.all store = ((dialogue c.options (answersTo c.options c.home store lines), .ok ()),
      { c with input := .lines [], closed := true }, leftBy c.options c.home store lines) := by
  induction lines generalizing c store with
  | nil =>
    have taken : c.next store = (⟨c.options.prompt, "", .ok false⟩,
        { c with input := .lines [], closed := true }, store) := by
      simp [next, opened, working, reads, Input.readLine]
    rw [all_of_ended taken rfl]
    simp [dialogue, answersTo, leftBy]
  | cons line rest ih =>
    rcases run : interpret c.options c.home (withoutLineEnd line) store with ⟨outcome, after⟩
    have stays := goesOn line List.mem_cons_self
    have taken : c.next store =
        (⟨c.options.prompt, answer c.options outcome after, .ok true⟩,
          { c with input := .lines (rest.map some) }, after) := by
      simp [next, opened, working, reads, Input.readLine, stays, run]
    have later := ih (c := { c with input := .lines (rest.map some) }) opened working
      (fun line mem => goesOn line (List.mem_cons_of_mem _ mem)) rfl after
    rw [all_of_goesOn taken rfl, later, answersTo, run, dialogue_cons, leftBy_cons run]

/-! ## The session beside the script -/

/-- What a session shows for an outcome: the values one after the other, if there are any, or the
failure in the form that the options ask for. -/
theorem Console.answer_eq (outcome : Except Fault (List Value)) (after : Store) :
    answer options outcome after =
      match outcome with
      | .ok values =>
        if values.isEmpty then "" else "; ".intercalate (values.map after.valueText) ++ "\n"
      | .error fault => options.errorFormat.render fault.diagnostic ++ "\n" := by
  match outcome with
  | .ok [] => rfl
  | .ok (first :: rest) =>
    rw [answer, Store.valueTexts_eq_map]
    · rfl
    · exact List.cons_ne_nil first rest
  | .error fault => rfl

/-- A session and a script that goes on agree on every text none of whose lines asks the session to
end.  They leave the same store, and so the same printed lines.  The session writes a prompt and an
answer for each line, and a last prompt: the answer is the failure that the script reports for the
line or, where it reports none, the values of the line in the store that the lines before it have
left.  However the session is asked for its turns, if it is closed in the end it has written the
same and left the same store, and a closed session neither writes nor changes anything. -/
theorem session_agrees_with_script (text : String) (home : ScopeId)
    (options scriptOptions : Options) (store : Store)
    (limits : scriptOptions.maxDepth = options.maxDepth)
    (policy : scriptOptions.errorPolicy = .continue)
    (goesOn : ∀ line ∈ textLines text,
      String.ofList (trimBlank line.toList) ≠ options.exitCommand) :
    let input := Input.ofBytes text.toUTF8.data.toList
    let lines := textLines text
    let console := Console.start input home options false
    ∃ report script answers ended last,
      (Script.start input home scriptOptions).all store = (.ok report, script, last) ∧
      console.all store = ((dialogue options answers, .ok ()), ended, last) ∧
      answers.length = lines.length ∧
      (∀ k line, lines[k]? = some line →
        let (outcome, after) := interpret options home (withoutLineEnd line)
          (leftBy options home store (lines.take k))
        (∀ fault, (k + 1, fault) ∈ report.failures ↔ outcome = .error fault) ∧
        answers[k]? = some (
          match outcome with
          | .ok values =>
            if values.isEmpty then "" else "; ".intercalate (values.map after.valueText) ++ "\n"
          | .error fault => options.errorFormat.render fault.diagnostic ++ "\n")) ∧
      (∀ requests, (console.takeAll store requests).2.1.closed = true →
        console.takeAll store requests = (dialogue options answers, ended, last)) ∧
      ∀ (closed : Console) (present : Store) (requests : List Console.Request),
        closed.closed = true → closed.takeAll present requests = ("", closed, present) := by
  intro input lines console
  have reads : input = .lines (lines.map some) := Input.ofBytes_toUTF8 text
  have stays : ∀ line ∈ lines, Console.isExit options (withoutLineEnd line) = false := by
    intro line mem
    rw [Console.isExit_withoutLineEnd]
    exact beq_false_of_ne (goesOn line mem)
  have session := Console.all_lines (c := console) rfl rfl stays reads store
  have script : (Script.start input home scriptOptions).all store =
      (.ok ⟨lines.length, failuresBehind options home 0 store lines⟩,
        { Script.start input home scriptOptions with input := .lines [], line := 0 + lines.length },
        leftBy options home store lines) := by
    rw [← failuresBehind_maxDepth limits, ← leftBy_maxDepth limits]
    simp only [Script.all, Script.start, reads]
    rw [Script.runLines_continue policy, Nat.zero_add, List.reverse_nil, List.nil_append]
  refine ⟨_, _, answersTo options home store lines, _, _, script, session,
    length_answersTo store lines, ?_, fun _ => Console.takeAll_of_closes session,
    fun _ present requests closed => Console.takeAll_of_closed closed present requests⟩
  intro k line found
  rcases run : interpret options home (withoutLineEnd line)
    (leftBy options home store (lines.take k)) with ⟨outcome, after⟩
  refine ⟨fun fault => ?_, by rw [getElem?_answersTo found run, Console.answer_eq]⟩
  rw [← Nat.zero_add k, mem_failuresBehind_iff]
  simp [found, run]

/-- Three lines, of which the second one fails and the last one is blank: the session writes four
prompts, two values and the failure that the script reports. -/
theorem session_agrees_with_script_three_lines :
    let text := "'a', 'b'\r\n)\n\n"
    let input := Input.ofBytes text.toUTF8.data.toList
    let fault := Fault.strayClosing ')' 0
    (∀ line ∈ textLines text, String.ofList (trimBlank line.toList) ≠ "exit") ∧
    ∃ report script ended last,
      (Script.start input ⟨0⟩ { errorPolicy := .continue }).all .empty =
        (.ok report, script, last) ∧
      (2, fault) ∈ report.failures ∧
      (Console.start input ⟨0⟩ {} false).all .empty =
        ((dialogue {} ["a; b\n", fault.diagnostic.text ++ "\n", ""], .ok ()), ended, last) := by
  intro text input fault
  have goesOn : ∀ line ∈ textLines text, String.ofList (trimBlank line.toList) ≠ "exit" := by decide
  obtain ⟨report, script, answers, ended, last, reported, written, length, each, _⟩ :=
    session_agrees_with_script text ⟨0⟩ {} { errorPolicy := .continue } .empty rfl rfl goesOn
  have lines : textLines text = ["'a', 'b'\r\n", ")\n", "\n"] := by decide
  have values : interpret {} ⟨0⟩ (withoutLineEnd "'a', 'b'\r\n") .empty =
      (.ok [.string "a", .string "b"], .empty) := by cbv
  have failed : interpret {} ⟨0⟩ (withoutLineEnd ")\n") .empty = (.error fault, .empty) := by cbv
  have blank : interpret {} ⟨0⟩ (withoutLineEnd "\n") .empty = (.ok [], .empty) := by cbv
  rw [lines] at length each
  have first := each 0 _ rfl
  have second := each 1 _ rfl
  have third := each 2 _ rfl
  simp only [List.take_zero, List.take_succ_cons, leftBy, List.foldl_cons, List.foldl_nil, values,
    failed, blank] at first second third
  have shown : answers = ["a; b\n", fault.diagnostic.text ++ "\n", ""] := by
    refine List.ext_getElem? fun k => ?_
    rcases k with _ | _ | _ | k
    · exact first.2
    · exact second.2
    · exact third.2
    · rw [List.getElem?_eq_none (by simp [length]), List.getElem?_eq_none (by simp)]
  exact ⟨goesOn, report, script, ended, last, reported, (second.1 fault).mpr rfl, shown ▸ written⟩

end Scriptlet
