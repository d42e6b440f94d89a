import Scriptlet.Proofs.Lockstep.Scanning
set_option autoImplicit false

/-!
# Independent sessions

A session is a scope made from a library, in which lines are interpreted.  All sessions live in one
store and may print to the same outputs.  Still none of them notices the others: whenever sessions
begin, and in whatever order their calls come, each of them gets the answers, prints the lines and
ends with the bindings that it has when its calls are made alone.

A run of many sessions is compared with each session's run alone.  The two stores are related in a
world of the session's own, a step of the session is made in lockstep, and a step of another session
leaves alone every scope that the world knows.
-/

namespace Scriptlet

/-! ## Calls and their answers -/

/-- A line and the options it is interpreted with. -/
structure Call where
  options : Options
  line : String

/-- What can be seen of a call: its values as they are shown, or its failure as it is reported, and
the text that arrived at each output. -/
structure Answer where
  outcome : Except Diagnostic (List String)
  printed : Output → Option String

/-- The text written to an output since it was as `before`. -/
def Sink.since (before after : Sink) : String :=
  String.ofList (after.written.toList.drop before.written.toList.length)

namespace Store

/-- The text written to each output since the store was as `before`. -/
def printedSince (before after : Store) (output : Output) : Option String :=
  (before.output? output).bind fun sink => (after.output? output).map sink.since

/-- A result as it is shown. -/
def shown (s : Store) : Except Fault (List Value) → Except Diagnostic (List String)
  | .ok values => .ok (s.valueTexts values)
  | .error fault => .error fault.diagnostic

/-- The names bound in a scope, with their values as they are shown. -/
def shownBindings (s : Store) (id : ScopeId) : List (String × String) :=
  match s.scope? id with
  | none => []
  | some scope => scope.bindings.entries.map fun entry => (entry.1, s.valueText entry.2)

end Store

/-- Interprets the line in a scope. -/
def Call.answer (call : Call) (home : ScopeId) (store : Store) : Answer × Store :=
  let (result, after) := interpret call.options home call.line store
  (⟨after.shown result, store.printedSince after⟩, after)

/-! ## Sessions -/

/-- A session that has begun: its scope and the answers so far. -/
structure Session where
  home : ScopeId
  answers : List Answer

/-- What is left of a session: all its answers, and what its scope binds in the end. -/
structure Transcript where
  answers : List Answer
  bindings : List (String × String)

namespace Session

/-- Makes a call. -/
def take (session : Session) (call : Call) (store : Store) : Session × Store :=
  let (answer, after) := call.answer session.home store
  ({ session with answers := session.answers ++ [answer] }, after)

def transcript (session : Session) (store : Store) : Transcript :=
  ⟨session.answers, store.shownBindings session.home⟩

end Session

namespace Library

/-- A session in a new scope. -/
def begin (library : Library) (store : Store) : Session × Store :=
  let (home, after) := library.newScope store
  (⟨home, []⟩, after)

/-- A session in which calls are made one after the other and nothing happens besides. -/
def alone (library : Library) (calls : List Call) (start : Store) : Session × Store :=
  calls.foldl (fun (session, store) call => session.take call store) (library.begin start)

/-- The transcript of a session alone. -/
def transcript (library : Library) (calls : List Call) (start : Store) : Transcript :=
  let (session, last) := library.alone calls start
  session.transcript last

end Library

/-! ## Many sessions -/

/-- What can happen: a session begins, or a call is made on the session with this number. -/
inductive Event where
  | begin (library : Library)
  | call (number : Nat) (request : Call)

/-- The sessions that have begun, in their order, and the store they share. -/
structure System where
  sessions : List Session
  store : Store

namespace System

/-- What an event does.  A call on a session that has not begun does nothing. -/
def step (system : System) : Event → System
  | .begin library =>
    let (session, after) := library.begin system.store
    ⟨system.sessions ++ [session], after⟩
  | .call number request =>
    match system.sessions[number]? with
    | none => system
    | some session =>
      let (session, after) := session.take request system.store
      ⟨system.sessions.set number session, after⟩

def run (system : System) (events : List Event) : System := events.foldl step system

/-- The transcripts of all sessions. -/
def transcripts (system : System) : List Transcript :=
  system.sessions.map fun session => session.transcript system.store

end System

/-- Notes an event: which library a session is made from, or a call for one of the sessions. -/
def Event.note (agenda : List (Library × List Call)) : Event → List (Library × List Call)
  | .begin library => agenda ++ [(library, [])]
  | .call number request =>
    match agenda[number]? with
    | none => agenda
    | some (library, calls) => agenda.set number (library, calls ++ [request])

/-- The library of each session and the calls made on it, without the events of the others. -/
def agenda (events : List Event) : List (Library × List Call) := events.foldl Event.note []

/-! ## What is seen of related stores -/

/-- Lines written to an output add one text to it, unless it is broken. -/
theorem Sink.exists_text (lines : List String) : ∃ text, ∀ sink : Sink,
    sink.writeLines lines =
      if sink.broken then sink else { sink with written := sink.written ++ text } := by
  induction lines with
  | nil =>
    refine ⟨"", fun sink => ?_⟩
    simp [Sink.writeLines]
  | cons line rest ih =>
    obtain ⟨text, written⟩ := ih
    refine ⟨line ++ "\n" ++ text, fun sink => ?_⟩
    have first : sink.writeLines (line :: rest) = (sink.writeLine line).writeLines rest := rfl
    rw [first, written, Sink.writeLine]
    by_cases broken : sink.broken = true
    · simp only [broken, if_true]
    · simp only [broken, Bool.false_eq_true, if_false, String.append_assoc]

theorem Sink.broken_writeLines (sink : Sink) (lines : List String) :
    (sink.writeLines lines).broken = sink.broken := by
  obtain ⟨text, written⟩ := Sink.exists_text lines
  rw [written]
  split <;> rfl

/-- The same lines are the same text for outputs of which both or none are broken. -/
theorem Sink.since_writeLines {a b : Sink} (same : a.broken = b.broken) (lines : List String) :
    a.since (a.writeLines lines) = b.since (b.writeLines lines) := by
  obtain ⟨text, written⟩ := Sink.exists_text lines
  have added (sink : Sink) :
      sink.since (sink.writeLines lines) = if sink.broken then "" else text := by
    rw [written, Sink.since]
    split
    · rw [List.drop_length, String.ofList_nil]
    · rw [String.toList_append, List.drop_left, String.ofList_toList]
  rw [added, added, same]

namespace Store.Related

variable {w : World} {s t after after' : Store}

theorem printedSince_eq (related : after.Related w after') (origin : w.origin = (s, t))
    (outputs : s.SameOutputs t) : s.printedSince after = t.printedSince after' := by
  funext output
  obtain ⟨lines, left, right⟩ := related.printed output
  have same := outputs output
  rw [Store.printedSince, Store.printedSince, left, right, origin]
  generalize s.output? output = a at same ⊢
  generalize t.output? output = b at same ⊢
  cases a with
  | none =>
    cases b with
    | none => rfl
    | some b => cases same
  | some a =>
    cases b with
    | none => cases same
    | some b => exact congrArg some (Sink.since_writeLines (Option.some.inj same) lines)

theorem sameOutputs (related : after.Related w after') (origin : w.origin = (s, t))
    (outputs : s.SameOutputs t) : after.SameOutputs after' := by
  intro output
  obtain ⟨lines, left, right⟩ := related.printed output
  have kept : Sink.broken ∘ (·.writeLines lines) = Sink.broken :=
    funext fun sink => sink.broken_writeLines lines
  rw [left, right, origin, Option.map_map, Option.map_map, kept]
  exact outputs output

theorem shown_eq (related : s.Related w t) {x y : Except Fault (List Value)}
    (alike : Alike (Value.AllRelated w) x y) : s.shown x = t.shown y := by
  cases alike with
  | ok values => rw [shown, shown, related.valueTexts_eq values]
  | error fault => rfl

theorem shownBindings_eq (related : s.Related w t) {i j : ScopeId} (known : w.known i j) :
    s.shownBindings i = t.shownBindings j := by
  obtain ⟨a, b, left, right, scopes⟩ := related.scopes known
  rw [shownBindings, shownBindings, left, right]
  refine map_eq_of_forall₂ (scopes.entries.imp fun p q entry => ?_)
  rw [entry.1, related.valueText_eq entry.2]

end Store.Related

/-! ## A session and its run alone -/

/-- The world in which what is printed counts from the stores `s` and `t` on. -/
def World.startingAt (w : World) (s t : Store) : World := { w with origin := (s, t) }

/-- Stores stay related while others change what the world does not know. -/
theorem Store.Related.moved {w : World} {owned : ScopeId → Prop} {s after t : Store}
    (related : s.Related w t) (kept : s.Keeps owned after)
    (free : ∀ {i j}, w.known i j → ¬ owned i) : after.Related (w.startingAt after t) t where
  printed output := ⟨[], by simp [World.startingAt, Sink.writeLines]⟩
  scopes := by
    intro i j known
    have within : w.Within (w.startingAt after t) := ⟨id, id, id⟩
    obtain ⟨a, b, left, right, scopes⟩ := related.scopes known
    refine ⟨a, b, ?_, right, scopes.mono within⟩
    rw [kept.scopes (Store.lt_size_of_scope? left) (free known), left]
  known_of_held := related.known_of_held
  known_unique := related.known_unique
  routines_unique := related.routines_unique
  routines_lt routine := by
    obtain ⟨left, right⟩ := related.routines_lt routine
    exact ⟨Nat.lt_of_lt_of_le left kept.routines, right⟩

/-- A session among others, and the same session alone: it holds the same and has had the same
answers. -/
structure Session.Mirrors (w : World) (store : Store) (session : Session)
    (alone : Session × Store) : Prop where
  related : store.Related (w.startingAt store alone.2) alone.2
  home : w.held session.home alone.1.home
  answers : session.answers = alone.1.answers
  outputs : store.SameOutputs alone.2

namespace Session.Mirrors

variable {w : World} {store after : Store} {session : Session} {alone : Session × Store}

theorem transcript_eq (mirrors : session.Mirrors w store alone) :
    session.transcript store = alone.1.transcript alone.2 := by
  have known := mirrors.related.known_of_held mirrors.home
  rw [Session.transcript, Session.transcript, mirrors.answers,
    mirrors.related.shownBindings_eq known]

/-- What the session knows is in the store. -/
theorem lt_size (mirrors : session.Mirrors w store alone) {i j : ScopeId} (known : w.known i j) :
    i.index < store.scopes.size := by
  obtain ⟨_, _, left, _⟩ := mirrors.related.scopes known
  exact Store.lt_size_of_scope? left

/-- The session does not notice what others do to scopes it does not know. -/
theorem undisturbed (mirrors : session.Mirrors w store alone) {owned : ScopeId → Prop}
    (kept : store.Keeps owned after) (free : ∀ {i j}, w.known i j → ¬ owned i) :
    session.Mirrors w after alone where
  related := mirrors.related.moved kept free
  home := mirrors.home
  answers := mirrors.answers
  outputs output := (kept.outputs output).trans (mirrors.outputs output)

/-- A call has the same answer among others as alone. -/
theorem take (mirrors : session.Mirrors w store alone) (call : Call) :
    ∃ later, (w.startingAt store alone.2).Grows store later ∧
      store.Keeps w.Holds (session.take call store).2 ∧
      (session.take call store).1.Mirrors later (session.take call store).2
        (alone.1.take call alone.2) := by
  -- The step counts what is printed from the present stores on: that is the text of this call.
  have home : (w.startingAt store alone.2).held session.home alone.1.home := mirrors.home
  obtain ⟨later, grows, keeps, related, alike⟩ :=
    Lockstep.interpret home call.options call.line store alone.2 mirrors.related
  refine ⟨later, grows, keeps, ?_⟩
  have outcome := related.shown_eq alike
  have printed := related.printedSince_eq grows.origin mirrors.outputs
  have answers : (call.answer session.home store).1 = (call.answer alone.1.home alone.2).1 := by
    rw [Call.answer, Call.answer]
    exact congrArg₂ Answer.mk outcome printed
  exact {
    related := related.moved (.refl (fun _ => False) _) fun _ => id
    home := grows.held mirrors.home
    answers := congrArg₂ (· ++ [·]) mirrors.answers answers
    outputs := related.sameOutputs grows.origin mirrors.outputs }

end Session.Mirrors

/-- A session begins among others as it does alone. -/
theorem Library.mirrors_begin (library : Library) {store start : Store}
    (outputs : store.SameOutputs start) :
    ∃ later, (World.empty (store, start)).Grows store later ∧
      store.Keeps (World.empty (store, start)).Holds (library.begin store).2 ∧
      (library.begin store).1.Mirrors later (library.begin store).2 (library.alone [] start) := by
  obtain ⟨later, grows, keeps, related, home, _⟩ :=
    newScope_related (store.related_empty start) library
  exact ⟨later, grows, keeps, {
    related := related.moved (.refl (fun _ => False) _) fun _ => id
    home
    answers := rfl
    outputs := related.sameOutputs grows.origin outputs }⟩

theorem Library.alone_append (library : Library) (calls : List Call) (call : Call)
    (start : Store) : library.alone (calls ++ [call]) start =
      (library.alone calls start).1.take call (library.alone calls start).2 := by
  rw [Library.alone, Library.alone, List.foldl_append]
  rfl

/-! ## All sessions together -/

/-- Neither world knows a scope that is held in the other. -/
structure World.Apart (w v : World) : Prop where
  left : ∀ {i j k}, w.held i j → ¬ v.known i k
  right : ∀ {i j k}, v.held i j → ¬ w.known i k

theorem World.Apart.symm {w v : World} (apart : w.Apart v) : v.Apart w :=
  ⟨apart.right, apart.left⟩

theorem World.Apart.startingAt {w v : World} (apart : w.Apart v) (s t : Store) :
    (w.startingAt s t).Apart v :=
  ⟨apart.left, apart.right⟩

/-- Worlds stay apart while one of them grows by scopes that are new. -/
theorem World.Apart.grows {w later v : World} {store : Store} (apart : w.Apart v)
    (grows : w.Grows store later) (old : ∀ {i j}, v.known i j → i.index < store.scopes.size)
    (known_of_held : ∀ {i j}, v.held i j → v.known i j) : later.Apart v where
  left := by
    intro i j k held known
    rcases grows.held_new held with earlier | new
    · exact apart.left earlier known
    · exact absurd (old known) (Nat.not_lt.mpr new)
  right := by
    intro i j k held known
    rcases grows.known_new known with earlier | new
    · exact apart.right held earlier
    · exact absurd (old (known_of_held held)) (Nat.not_lt.mpr new)

/-- Every session of the system mirrors a session alone, each in a world of its own. -/
structure System.Mirrors (start : Store) (worlds : Nat → World) (system : System)
    (agenda : List (Library × List Call)) : Prop where
  length : system.sessions.length = agenda.length
  outputs : system.store.SameOutputs start
  sessions : ∀ {k : Nat} {session : Session}, system.sessions[k]? = some session →
    ∃ library calls, agenda[k]? = some (library, calls) ∧
      session.Mirrors (worlds k) system.store (library.alone calls start)
  apart : ∀ {k l : Nat} {a b : Session}, system.sessions[k]? = some a →
    system.sessions[l]? = some b → k ≠ l → (worlds k).Apart (worlds l)

/-- The lists differ at the place `k` at most, where the second one has `x`. -/
def Updated {α : Type} (xs : List α) (k : Nat) (x : α) (ys : List α) : Prop :=
  ∀ l, ys[l]? = if l = k then some x else xs[l]?

theorem updated_set {α : Type} {xs : List α} {k : Nat} (bound : k < xs.length) (x : α) :
    Updated xs k x (xs.set k x) := by
  intro l
  rw [List.getElem?_set, if_pos bound]
  simp only [eq_comm]

theorem updated_append {α : Type} (xs : List α) (x : α) : Updated xs xs.length x (xs ++ [x]) := by
  intro l
  by_cases last : l = xs.length
  · rw [if_pos last, last, List.getElem?_concat_length]
  · rw [if_neg last]
    by_cases inside : l < xs.length
    · exact List.getElem?_append_left inside
    · have outside : xs.length ≤ l := by omega
      have outside' : (xs ++ [x]).length ≤ l := by
        rw [List.length_append, List.length_singleton]
        omega
      rw [List.getElem?_eq_none outside, List.getElem?_eq_none outside']

namespace System.Mirrors

variable {start : Store} {worlds : Nat → World} {system : System}
  {agenda : List (Library × List Call)}

theorem not_begun (mirrors : system.Mirrors start worlds agenda) {k : Nat}
    (missing : system.sessions[k]? = none) : agenda[k]? = none := by
  have bound := List.getElem?_eq_none_iff.mp missing
  rw [mirrors.length] at bound
  exact List.getElem?_eq_none bound

theorem transcripts_eq (mirrors : system.Mirrors start worlds agenda) :
    system.transcripts = agenda.map fun (library, calls) => library.transcript calls start := by
  refine List.ext_getElem? fun k => ?_
  rw [System.transcripts, List.getElem?_map, List.getElem?_map]
  cases found : system.sessions[k]? with
  | none =>
    rw [mirrors.not_begun found]
    rfl
  | some session =>
    obtain ⟨library, calls, noted, mirror⟩ := mirrors.sessions found
    rw [noted]
    exact congrArg some mirror.transcript_eq

/-- One session goes on, or begins, while nothing happens to the others. -/
theorem advance (mirrors : system.Mirrors start worlds agenda) {k : Nat} {w later : World}
    {session : Session} {after : Store} {library : Library} {calls : List Call}
    {sessions : List Session} {noted : List (Library × List Call)}
    (apart : ∀ {l : Nat} {other : Session}, system.sessions[l]? = some other → l ≠ k →
      w.Apart (worlds l))
    (grows : w.Grows system.store later) (keeps : system.store.Keeps w.Holds after)
    (mirror : session.Mirrors later after (library.alone calls start))
    (first : Updated system.sessions k session sessions)
    (second : Updated agenda k (library, calls) noted) (length : sessions.length = noted.length) :
    System.Mirrors start (fun l => if l = k then later else worlds l) ⟨sessions, after⟩ noted := by
  -- A session other than the one at `k` was there before, and its world is apart from the new one.
  have others {l : Nat} {other : Session} (here : l ≠ k) (found : sessions[l]? = some other) :
      system.sessions[l]? = some other := by
    rw [first l, if_neg here] at found
    exact found
  have away {l : Nat} {other : Session} (here : l ≠ k) (found : sessions[l]? = some other) :
      later.Apart (worlds l) := by
    obtain ⟨_, _, _, old⟩ := mirrors.sessions (others here found)
    exact (apart (others here found) here).grows grows old.lt_size old.related.known_of_held
  refine ⟨length, fun output => (keeps.outputs output).trans (mirrors.outputs output), ?_, ?_⟩
  · intro l other found
    by_cases here : l = k
    · subst here
      rw [first l, if_pos rfl] at found
      cases found
      refine ⟨library, calls, ?_, ?_⟩
      · rw [second l, if_pos rfl]
      · simpa only [if_pos] using mirror
    · obtain ⟨library', calls', entry, old⟩ := mirrors.sessions (others here found)
      refine ⟨library', calls', ?_, ?_⟩
      · rw [second l, if_neg here, entry]
      · simp only [if_neg here]
        exact old.undisturbed keeps fun known ⟨_, held⟩ =>
          (apart (others here found) here).left held known
  · intro l m a b found found' distinct
    by_cases here : l = k
    · have there : m ≠ k := fun same => distinct (here.trans same.symm)
      simp only [if_pos here, if_neg there]
      exact away there found'
    · by_cases there : m = k
      · simp only [if_neg here, if_pos there]
        exact (away here found).symm
      · simp only [if_neg here, if_neg there]
        exact mirrors.apart (others here found) (others there found') distinct

/-- What one event preserves. -/
theorem step (mirrors : system.Mirrors start worlds agenda) (event : Event) :
    ∃ worlds, (system.step event).Mirrors start worlds (event.note agenda) := by
  cases event with
  | begin library =>
    obtain ⟨later, grows, keeps, mirror⟩ := library.mirrors_begin mirrors.outputs
    have apart (v : World) : (World.empty (system.store, start)).Apart v :=
      ⟨False.elim, fun _ => id⟩
    have noted := updated_append agenda (library, [])
    rw [← mirrors.length] at noted
    have length : (system.sessions ++ [(library.begin system.store).1]).length =
        (agenda ++ [(library, [])]).length := by
      rw [List.length_append, List.length_append, mirrors.length]
      rfl
    have begun := updated_append system.sessions (library.begin system.store).1
    have advanced := mirrors.advance (fun _ _ => apart _) grows keeps mirror begun noted length
    exact ⟨_, advanced⟩
  | call number request =>
    rw [System.step, Event.note]
    cases found : system.sessions[number]? with
    | none =>
      rw [mirrors.not_begun found]
      exact ⟨worlds, mirrors⟩
    | some session =>
      obtain ⟨library, calls, entry, mirror⟩ := mirrors.sessions found
      obtain ⟨later, grows, keeps, next⟩ := mirror.take request
      rw [← Library.alone_append] at next
      rw [entry]
      have bound : number < system.sessions.length := (List.getElem?_eq_some_iff.mp found).1
      have length : (system.sessions.set number (session.take request system.store).1).length =
          (agenda.set number (library, calls ++ [request])).length := by
        rw [List.length_set, List.length_set, mirrors.length]
      have apart {l : Nat} {other : Session} (begun : system.sessions[l]? = some other)
          (distinct : l ≠ number) := (mirrors.apart found begun distinct.symm).startingAt
            system.store (library.alone calls start).2
      have advanced := mirrors.advance apart grows keeps next (updated_set bound _)
        (updated_set (mirrors.length ▸ bound) _) length
      exact ⟨_, advanced⟩

/-- What a run preserves. -/
theorem run (events : List Event) (mirrors : system.Mirrors start worlds agenda) :
    ∃ worlds, (system.run events).Mirrors start worlds (events.foldl Event.note agenda) := by
  induction events generalizing system worlds agenda with
  | nil => exact ⟨worlds, mirrors⟩
  | cons event rest ih =>
    obtain ⟨next, stepped⟩ := mirrors.step event
    exact ih stepped

end System.Mirrors

/-- Sessions do not interfere.  Whenever sessions begin, from whatever libraries, and in whatever
order calls are made on them, each session has the transcript of its own calls made alone: the same
values are shown or the same failures reported, the same text is printed by each call, and the same
bindings are shown in the end. -/
theorem sessions_independent (start : Store) (events : List Event) :
    (System.run ⟨[], start⟩ events).transcripts =
      (agenda events).map fun (library, calls) => library.transcript calls start := by
  have none_begun : System.Mirrors start (fun _ => World.empty (start, start)) ⟨[], start⟩ [] :=
    ⟨rfl, fun _ => rfl, (fun found => by cases found), (fun found => by cases found)⟩
  obtain ⟨worlds, mirrors⟩ := none_begun.run events
  exact mirrors.transcripts_eq

example (a b : Library) (x y z : Call) :
    agenda [.begin a, .call 0 x, .begin b, .call 1 y, .call 0 z] = [(a, [x, z]), (b, [y])] :=
  rfl

end Scriptlet
