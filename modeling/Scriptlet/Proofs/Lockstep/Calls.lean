import Scriptlet.Proofs.Lockstep
set_option autoImplicit false

/-!
# Calls in lockstep

Every routine of the library, called with related arguments from scopes that stand for one another,
goes in lockstep: what it makes is new in both stores, what it prints is the same line, and the only
scope it writes to is the one it was called from.
-/

namespace Scriptlet

namespace Library

/-! ## Arguments -/

section Arguments

variable {w : World} {xs ys : List Value}

theorem single_alike (related : Value.AllRelated w xs ys) (name : String) :
    Alike (Value.Related w) (single name xs) (single name ys) := by
  cases related with
  | nil => exact .error _
  | cons first rest =>
    cases rest with
    | nil => exact .ok first
    | cons second rest =>
      simp only [single, List.length_cons, rest.length_eq]
      exact .error _

theorem pair_alike (related : Value.AllRelated w xs ys) (name : String) :
    Alike (fun p q => Value.Related w p.1 q.1 ∧ Value.Related w p.2 q.2)
      (pair name xs) (pair name ys) := by
  cases related with
  | nil => exact .error _
  | cons first rest =>
    cases rest with
    | nil => exact .error _
    | cons second rest =>
      cases rest with
      | nil => exact .ok ⟨first, second⟩
      | cons third rest =>
        simp only [pair, List.length_cons, rest.length_eq]
        exact .error _

theorem makeRange_alike (related : Value.AllRelated w xs ys) :
    Alike (Value.Related w) (makeRange xs) (makeRange ys) := by
  cases related with
  | nil => exact .error _
  | cons first rest =>
    cases rest with
    | nil =>
      rw [makeRange, makeRange, first.asInt_eq]
      exact (Alike.of_eq rfl).bind fun _ _ same => same ▸ .ok (.range _)
    | cons second rest =>
      cases rest with
      | nil => exact .error _
      | cons third rest =>
        cases rest with
        | nil =>
          rw [makeRange, makeRange, first.asInt_eq, second.asInt_eq, third.asInt_eq]
          refine (Alike.of_eq rfl).bind fun _ start same => same ▸ ?_
          refine (Alike.of_eq rfl).bind fun _ step same => same ▸ ?_
          exact (Alike.of_eq rfl).bind fun _ stop same => same ▸ .ok (.range _)
        | cons fourth rest =>
          simp only [makeRange, List.length_cons, rest.length_eq]
          exact .error _

theorem allTrue_eq (related : Value.AllRelated w xs ys) : allTrue xs = allTrue ys := by
  induction related with
  | nil => rfl
  | cons first _ ih => rw [allTrue, allTrue, first.asBool_eq, ih]

theorem fieldNames_eq (related : Value.AllRelated w xs ys) : fieldNames xs = fieldNames ys := by
  induction related with
  | nil => rfl
  | cons first _ ih => rw [fieldNames, fieldNames, first.asString_eq, ih]

end Arguments

section Values

variable {w : World} {a b : Value}

theorem natural_eq (related : Value.Related w a b) (name : String) :
    natural name a = natural name b := by
  rw [natural, natural, related.asNumber_eq]

theorem number_alike {α : Type} (x : Except Fault α) (f : α → Float) :
    Alike (Value.Related w) (do return .number (f (← x))) (do return .number (f (← x))) := by
  cases x with
  | error fault => exact .error fault
  | ok a => exact .ok (.number _)

theorem toInt_alike (related : Value.Related w a b) :
    Alike (Value.Related w) (toInt a) (toInt b) := by
  cases related with
  | string s =>
    rw [toInt]
    split
    · exact .ok (.number _)
    · exact .error _
  | _ => exact number_alike _ _

theorem toFloat_alike (related : Value.Related w a b) :
    Alike (Value.Related w) (toFloat a) (toFloat b) := by
  cases related with
  | string s =>
    rw [toFloat]
    split
    · exact .ok (.number _)
    · exact .error _
  | _ => exact number_alike _ _

theorem count_eq (related : Value.Related w a b) : count a = count b := by
  cases related with
  | array lengths items => rw [count, count, lengths]
  | _ => rfl

theorem items_alike (related : Value.Related w a b) :
    Alike (Value.AllRelated w) (items a) (items b) := by
  cases related with
  | array lengths same => exact .ok (Value.related_array_iff.mp (.array lengths same))
  | range r =>
    rw [items]
    split
    · exact .ok (List.forall₂_map_left_iff.mpr (List.forall₂_map_right_iff.mpr
        (List.forall₂_same.mpr fun _ _ => .number _)))
    · exact .error _
  | string s =>
    exact .ok (List.forall₂_map_left_iff.mpr (List.forall₂_map_right_iff.mpr
      (List.forall₂_same.mpr fun _ _ => .string _)))
  | number n => exact .error _
  | bool b => exact .error _
  | routine same => exact .error _
  | scope held => exact .error _

end Values

/-! ## What a library makes -/

theorem bindings_related (w : World) (r q : Nat) (builtins : List Builtin) :
    EntriesRelated (w.withRoutines r q builtins.length) (bindings r builtins)
      (bindings q builtins) := by
  refine List.forall₂_map_left_iff.mpr (List.forall₂_map_right_iff.mpr ?_)
  refine List.forall₂_same.mpr fun entry member => ⟨rfl, .routine ⟨.inr ?_, rfl⟩⟩
  have bound := List.snd_lt_of_mem_zipIdx member
  exact ⟨entry.2, by simpa using bound, rfl, rfl⟩

theorem mathConstants_related (w : World) : EntriesRelated w mathConstants mathConstants := by
  refine List.forall₂_same.mpr fun entry member => ⟨rfl, ?_⟩
  simp only [mathConstants, List.mem_cons, List.not_mem_nil, or_false] at member
  rcases member with rfl | rfl | rfl <;> exact .number _

/-- A scope that is installed is new in both stores, and so are its routines.  It is the only one
that the program may hold besides. -/
theorem install_related {w : World} {s t : Store} (related : s.Related w t) (label : String)
    (builtins : List Builtin) (hold : Prop) :
    ∃ later, w.Grows s later ∧ s.Keeps w.Holds (install label builtins s).2 ∧
      (install label builtins s).2.Related later (install label builtins t).2 ∧
      later.known (install label builtins s).1 (install label builtins t).1 ∧
      (hold → later.held (install label builtins s).1 (install label builtins t).1) ∧
      ∀ {i j}, later.held i j → w.held i j ∨ hold := by
  have routines := related.withRoutines builtins.length
  have entries := EntriesRelated.ofList (List.rel_append
    (bindings_related w s.routines t.routines builtins) (mathConstants_related _))
  have grows := w.grows_withRoutines s s.routines t.routines builtins.length
  have keeps := s.keeps_withRoutines w.Holds builtins.length
  refine ⟨_, grows.trans keeps (World.grows_withScope _ _ ⟨t.scopes.size⟩ hold),
    keeps.trans grows (Store.keeps_addScope _ _ (Scope.parentBelow_of_root rfl _)), ?_,
    .inr ⟨rfl, rfl⟩,
    fun held => .inr ⟨held, rfl, rfl⟩, fun held => held.imp id fun new => new.1⟩
  refine routines.addScope ?_ (Scope.parentBelow_of_root rfl _) (Scope.parentBelow_of_root rfl _) hold
  exact ⟨rfl, rfl, entries, .none⟩

/-- A program's scope that is made from a library is new in both stores, and so are the built-in
functions below it, which the program does not hold. -/
theorem newScope_related {w : World} {s t : Store} (related : s.Related w t) (library : Library) :
    ∃ later, w.Grows s later ∧ s.Keeps w.Holds (library.newScope s).2 ∧
      (library.newScope s).2.Related later (library.newScope t).2 ∧
      later.held (library.newScope s).1 (library.newScope t).1 ∧
      ∀ {i j}, later.held i j → w.held i j ∨ i = (library.newScope s).1 := by
  obtain ⟨middle, grows, keeps, below, parents, _, untold⟩ :=
    install_related related "builtins" (functions library.output) False
  have path : EntriesRelated middle (library.file.toList.map fun path => (fileName, .string path))
      (library.file.toList.map fun path => (fileName, .string path)) := by
    refine List.forall₂_same.mpr fun entry member => ⟨rfl, ?_⟩
    obtain ⟨text, _, rfl⟩ := List.mem_map.mp member
    exact .string text
  refine ⟨_, grows.trans keeps (World.grows_withScope middle _ _ True),
    keeps.trans grows (Store.keeps_addScope _ _ (library.parentBelow_newBuiltins s rfl)), ?_,
    .inr ⟨trivial, rfl, rfl⟩, ?_⟩
  · refine below.addScope ?_ (library.parentBelow_newBuiltins s rfl)
      (library.parentBelow_newBuiltins t rfl) True
    exact ⟨rfl, rfl, EntriesRelated.ofList path, .some parents⟩
  · rintro i j (earlier | ⟨_, rfl, _⟩)
    · exact .inl ((untold earlier).resolve_right id)
    · exact .inr rfl

theorem lockstep_load {w : World} (name : String) :
    Lockstep w (fun later i j => later.held i j) (load name) (load name) := by
  rw [load]
  split
  · intro s t related
    obtain ⟨later, grows, keeps, after, _, held, _⟩ :=
      install_related related name mathFunctions True
    exact ⟨later, grows, keeps, after, .ok (held trivial)⟩
  · exact .fail _

theorem lockstep_newInstance {w : World} (fields : List String) {xs ys : List Value}
    (same : Value.AllRelated w xs ys) :
    Lockstep w (fun later i j => later.held i j)
      (.create fun store => store.newInstance (fields.zip xs))
      (.create fun store => store.newInstance (fields.zip ys)) := by
  have pairs : EntriesRelated w (fields.zip xs) (fields.zip ys) := by
    induction same generalizing fields with
    | nil => simp
    | cons first _ ih =>
      cases fields with
      | nil => exact .nil
      | cons field rest => exact .cons ⟨rfl, first⟩ (ih rest)
  intro s t related
  have instances : (s.newInstance (fields.zip xs)).2.Related
      (w.withScope ⟨s.scopes.size⟩ ⟨t.scopes.size⟩ True) (t.newInstance (fields.zip ys)).2 := by
    refine related.addScope ?_ (Scope.parentBelow_of_root rfl _)
      (Scope.parentBelow_of_root rfl _) True
    exact ⟨rfl, rfl, EntriesRelated.ofList pairs, .none⟩
  exact ⟨_, w.grows_withScope s ⟨t.scopes.size⟩ True,
    s.keeps_addScope _ (Scope.parentBelow_of_root rfl _), instances,
    .ok (.inr ⟨trivial, rfl, rfl⟩)⟩

theorem lockstep_newRoutine {w : World} (behaviour : Behaviour) :
    Lockstep w Routine.Related (.create (newRoutine behaviour))
      (.create (newRoutine behaviour)) := by
  intro s t related
  refine ⟨_, w.grows_withRoutines s s.routines t.routines 1, s.keeps_withRoutines _ 1,
    related.withRoutines 1, .ok ⟨.inr ⟨0, Nat.one_pos, rfl, rfl⟩, rfl⟩⟩

/-! ## Printing -/

theorem output?_writeLine (s : Store) (line : String) (output k : Output) :
    (s.writeLine line output).output? k =
      if output = k then (s.output? k).map (·.writeLine line) else s.output? k := by
  cases output with
  | standard => cases k <;> rfl
  | other index =>
    cases k with
    | standard => rfl
    | other index' =>
      simp only [Store.writeLine, Store.output?, Array.getElem?_modify, Output.other.injEq]

theorem broken_writeLine (sink : Sink) (line : String) :
    (sink.writeLine line).broken = sink.broken := by
  rw [Sink.writeLine]
  split <;> rfl

theorem keeps_writeLine (s : Store) (owned : ScopeId → Prop) (line : String) (output : Output) :
    s.Keeps owned (s.writeLine line output) := by
  have outputs : (s.writeLine line output).SameOutputs s := by
    intro k
    rw [output?_writeLine]
    split
    · rw [Option.map_map]
      exact congrArg (Option.map · _) (funext fun sink => broken_writeLine sink line)
    · rfl
  cases output <;> exact ⟨Nat.le_refl _, Nat.le_refl _, fun _ _ => rfl, fun _ => rfl, outputs⟩

theorem writeLine_related {w : World} {s t : Store} (related : s.Related w t) (line : String)
    (output : Output) : (s.writeLine line output).Related w (t.writeLine line output) := by
  have printed (k : Output) : ∃ lines,
      (s.writeLine line output).output? k = (w.origin.1.output? k).map (·.writeLines lines) ∧
        (t.writeLine line output).output? k =
          (w.origin.2.output? k).map (·.writeLines lines) := by
    obtain ⟨lines, left, right⟩ := related.printed k
    rw [output?_writeLine, output?_writeLine, left, right]
    by_cases here : output = k
    · refine ⟨lines ++ [line], ?_⟩
      simp only [if_pos here, Option.map_map, Function.comp_def, Sink.writeLines,
        List.foldl_append, List.foldl_cons, List.foldl_nil, and_self]
    · exact ⟨lines, if_neg here, if_neg here⟩
  cases output <;> exact { related with printed }

theorem lockstep_print {w : World} (output : Output) {xs ys : List Value}
    (same : Value.AllRelated w xs ys) :
    Lockstep w (fun _ _ _ => True) (print output xs) (print output ys) := by
  intro s t related
  simp only [print, related.valueTexts_eq same]
  exact ⟨w, .refl w s, keeps_writeLine s _ _ _, writeLine_related related _ _, .ok trivial⟩

/-! ## Calls -/

theorem lockstep_callBuiltin {w : World} {i j : ScopeId} (held : w.held i j) (builtin : Builtin)
    {xs ys : List Value} (same : Value.AllRelated w xs ys) :
    Lockstep w Value.Related (callBuiltin builtin i xs) (callBuiltin builtin j ys) := by
  cases builtin with
  | range => exact .ofExcept fun _ _ _ => makeRange_alike same
  | typeOf =>
    refine .ofExcept fun _ _ _ => (single_alike same "type").bind fun x y value => ?_
    rw [value.typeName_eq]
    exact .ok (.string _)
  | text =>
    refine .ask fun s t related => (single_alike same "str").bind fun x y value => ?_
    rw [related.valueText_eq value]
    exact .ok (.string _)
  | int =>
    exact .ofExcept fun _ _ _ => (single_alike same "int").bind fun _ _ value => toInt_alike value
  | float =>
    exact .ofExcept fun _ _ _ =>
      (single_alike same "float").bind fun _ _ value => toFloat_alike value
  | print output =>
    refine .bind (lockstep_print output same) fun later _ _ within _ => ?_
    exact .pure (Value.related_array_iff.mpr (same.mono within))
  | load =>
    refine .bind (R := Value.Related) (.ofExcept fun _ _ _ => single_alike same "import") ?_
    intro later x y within value
    refine .bind (R := fun _ name name' => name = name') (.ofExcept fun _ _ _ => ?_) ?_
    · exact .of_eq value.asString_eq
    intro later' name _ within' names
    subst names
    refine .bind (lockstep_load name) fun last k l within'' loaded => ?_
    have caller := within''.held (within'.held (within.held held))
    refine .bind (.declare caller name (.scope loaded)) fun final _ _ more _ => ?_
    exact .pure (.scope (more.held loaded))
  | gate =>
    refine .ofExcept fun _ _ _ => ?_
    rw [allTrue_eq same]
    exact (Alike.of_eq rfl).bind fun _ _ same => same ▸ .ok (.bool _)
  | structureOf =>
    refine .bind (R := fun _ names names' => names = names') (.ofExcept fun _ _ _ => ?_) ?_
    · exact .of_eq (fieldNames_eq same)
    intro later fields _ within names
    subst names
    refine .bind (lockstep_newRoutine (.instantiate fields)) fun last r q _ made => ?_
    exact .pure (.routine made)
  | list =>
    refine .ofExcept fun _ _ _ => (single_alike same "list").bind fun x y value => ?_
    exact (items_alike value).bind fun _ _ items => .ok (Value.related_array_iff.mpr items)
  | length =>
    refine .ofExcept fun _ _ _ => (single_alike same "len").bind fun x y value => ?_
    rw [count_eq value]
    exact number_alike _ _
  | real f =>
    refine .ofExcept fun _ _ _ => (single_alike same f.name).bind fun x y value => ?_
    rw [value.asNumber_eq]
    exact number_alike _ _
  | hypotenuse =>
    refine .ofExcept fun _ _ _ => (pair_alike same "hypot").bind ?_
    rintro ⟨x, y⟩ ⟨x', y'⟩ ⟨first, second⟩
    simp only [first.asNumber_eq, second.asNumber_eq]
    exact (Alike.of_eq rfl).bind fun _ _ same => same ▸ number_alike _ _
  | factorial =>
    refine .ofExcept fun _ _ _ => (single_alike same "fac").bind fun x y value => ?_
    rw [natural_eq value]
    exact number_alike _ _
  | binomial =>
    refine .ofExcept fun _ _ _ => (pair_alike same "binom").bind ?_
    rintro ⟨n, k⟩ ⟨n', k'⟩ ⟨first, second⟩
    simp only [natural_eq first, natural_eq second]
    exact (Alike.of_eq rfl).bind fun _ _ same => same ▸ number_alike _ _

theorem lockstep_instantiate {w : World} (name : String) (fields : List String)
    {xs ys : List Value} (same : Value.AllRelated w xs ys) :
    Lockstep w Value.Related (instantiate name fields xs) (instantiate name fields ys) := by
  rw [instantiate, instantiate, same.length_eq]
  split
  · refine .bind (lockstep_newInstance fields same) fun later i j _ made => ?_
    exact .pure (.scope made)
  · exact .fail _

end Library

/-- Routines that stand for one another are called in lockstep. -/
theorem Lockstep.call {w : World} {r q : Routine} (routines : r.Related w q) {i j : ScopeId}
    (held : w.held i j) {xs ys : List Value} (same : Value.AllRelated w xs ys) :
    Lockstep w Value.Related (r.call i xs) (q.call j ys) := by
  obtain ⟨id, behaviour⟩ := r
  obtain ⟨id', behaviour'⟩ := q
  obtain ⟨_, rfl⟩ := routines
  cases behaviour with
  | builtin builtin => exact Library.lockstep_callBuiltin held builtin same
  | instantiate fields => exact Library.lockstep_instantiate _ fields same

end Scriptlet
