import Scriptlet.Proofs.Subexpressions
import Scriptlet.Proofs.Writes
set_option autoImplicit false

/-!
# Dotted names

A dotted name is read while the scopes on its way are looked up: each part but the last must be bound
to a scope, in which the next part is looked up.  The label that comes out belongs to the last of
these scopes.  What is written through it can be read back by the same dotted name, unless the write
went to one of the very slots that were looked at on the way.
-/

namespace Scriptlet

/-- The text of a dotted name: each part of the path with a point behind it, and the last part. -/
def dottedText (path : List String) (last : String) : List Char :=
  path.flatMap (fun name => name.toList ++ ['.']) ++ last.toList

/-- All characters can go on a name. -/
def IsNamePart (name : String) : Prop := ∀ c ∈ name.toList, isNamePart c = true

namespace Store

/-! ## The way of a path -/

/-- Looking up the names of the path one after the other leads from the first scope to the
second. -/
inductive Leads (s : Store) : ScopeId → List String → ScopeId → Prop where
  | here (id : ScopeId) : Leads s id [] id
  | into {id next last : ScopeId} {name : String} {path : List String}
      (bound : s.lookup id name = some (.scope next)) (rest : Leads s next path last) :
      Leads s id (name :: path) last

/-- Why a path does not go on by a name: it has no value, or one that is not a scope. -/
inductive Bars (s : Store) (id : ScopeId) (name : String) : Fault → Prop where
  | missing (unbound : s.lookup id name = none) : Bars s id name (.unresolved name)
  | plain {v : Value} (bound : s.lookup id name = some v) (other : ∀ next, v ≠ .scope next) :
      Bars s id name (.notNamespace name v.typeName)

/-- Going along the path looks at the slot: at every scope that a lookup of one of its names comes
to, whether it binds the name or not. -/
inductive Examines (s : Store) : ScopeId → List String → Label → Prop where
  | here {id other : ScopeId} {name : String} {path : List String}
      (consulted : s.Consults name id other) : Examines s id (name :: path) ⟨other, name⟩
  | further {id next : ScopeId} {name : String} {path : List String} {slot : Label}
      (bound : s.lookup id name = some (.scope next)) (rest : Examines s next path slot) :
      Examines s id (name :: path) slot

variable {s t : Store}

/-- A path leads somewhere, or stops at its first name that bars the way. -/
theorem leads_or_bars (s : Store) (path : List String) (id : ScopeId) :
    (∃ last, s.Leads id path last) ∨
      ∃ front name behind between fault, path = front ++ name :: behind ∧
        s.Leads id front between ∧ s.Bars between name fault := by
  induction path generalizing id with
  | nil => exact .inl ⟨id, .here id⟩
  | cons name path ih =>
    cases found : s.lookup id name with
    | none => exact .inr ⟨[], name, path, id, _, rfl, .here id, .missing found⟩
    | some v =>
      by_cases scope : ∃ next, v = .scope next
      · obtain ⟨next, rfl⟩ := scope
        rcases ih next with ⟨last, leads⟩ | ⟨front, stop, behind, between, fault, rfl, leads, bars⟩
        · exact .inl ⟨last, .into found leads⟩
        · exact .inr ⟨name :: front, stop, behind, between, fault, rfl, .into found leads, bars⟩
      · exact .inr ⟨[], name, path, id, _, rfl, .here id, .plain found (not_exists.mp scope)⟩

/-- In a sound store a path leads from an existing scope to existing scopes. -/
theorem Leads.lt_size (sound : s.Sound .existing) {id last : ScopeId} {path : List String}
    (leads : s.Leads id path last) (old : id.index < s.scopes.size) :
    last.index < s.scopes.size := by
  induction leads with
  | here id => exact old
  | into bound _ ih => exact ih (Value.admitted_scope_iff.mp (sound.lookup bound))

/-- A write to a slot that the path does not look at leaves its way as it was. -/
theorem Leads.of_changedOnly {slot : Label} (changed : s.ChangedOnly (· = slot) t)
    {id last : ScopeId} {path : List String} (leads : s.Leads id path last)
    (apart : ¬ s.Examines id path slot) : t.Leads id path last := by
  induction leads with
  | here id => exact .here id
  | @into id next last name path bound _ ih =>
    have same : t.lookup id name = s.lookup id name := by
      refine changed.lookup_eq fun here consulted => apart ?_
      subst here
      exact .here consulted
    exact .into (same.trans bound) (ih fun examines => apart (.further bound examines))

theorem stepInto_of_scope {id next : ScopeId} {name : String}
    (bound : s.lookup id name = some (.scope next)) : s.stepInto id name = .ok next := by
  rw [stepInto, resolve, bound]

theorem Bars.stepInto_eq {id : ScopeId} {name : String} {fault : Fault}
    (bars : s.Bars id name fault) : s.stepInto id name = .error fault := by
  cases bars with
  | missing unbound => rw [stepInto, resolve, unbound]
  | @plain v bound other =>
    rw [stepInto, resolve, bound]
    cases v with
    | scope next => exact absurd rfl (other next)
    | number | bool | string | array | range | routine => rfl

end Store

/-! ## Reading -/

section

variable {s : Store} {id : ScopeId} {name : String} {pos : Nat} {behind : List Char}

/-- A part of a dotted name is complete at the point behind it. -/
theorem followName_point (part : IsNamePart name) :
    followName s id "" pos (name.toList ++ '.' :: behind) =
      (s.stepInto id name >>= fun next =>
        followName s next "" (pos + name.toList.length + 1) behind) := by
  rw [followName_parts s id part, String.empty_append, String.ofList_toList, followName,
    if_neg (by decide), if_pos rfl]
  cases s.stepInto id name <;> rfl

/-- The last part of a dotted name, with something behind it that is no part of a name. -/
theorem followName_last (part : IsNamePart name)
    (ends : ∀ c, behind.head? = some c → isNamePart c = false ∧ c ≠ '.') :
    followName s id "" pos (name.toList ++ behind) =
      .ok (⟨id, name⟩, ⟨pos + name.toList.length, behind⟩) := by
  rw [followName_parts s id part, String.empty_append, String.ofList_toList]
  cases behind with
  | nil => rw [followName]
  | cons c rest =>
    obtain ⟨other, point⟩ := ends c rfl
    rw [followName, other, if_neg Bool.false_ne_true, if_neg point]

/-- The front of a dotted name is read up to the scope that it leads to. -/
theorem followName_of_leads {path : List String} {between : ScopeId}
    (leads : s.Leads id path between) (parts : ∀ name ∈ path, IsNamePart name) :
    followName s id "" pos (path.flatMap (fun name => name.toList ++ ['.']) ++ behind) =
      followName s between "" (pos + (path.flatMap fun name => name.toList ++ ['.']).length)
        behind := by
  induction leads generalizing pos with
  | here id => simp
  | @into id next last name path bound _ ih =>
    obtain ⟨first, later⟩ := List.forall_mem_cons.mp parts
    have split : (name :: path).flatMap (fun name => name.toList ++ ['.']) ++ behind =
        name.toList ++ '.' :: (path.flatMap (fun name => name.toList ++ ['.']) ++ behind) := by
      simp
    rw [split, followName_point first, s.stepInto_of_scope bound]
    refine (ih later).trans ?_
    simp only [List.flatMap_cons, List.length_append, List.length_singleton, Nat.add_assoc]

end

namespace Scanner

/-- In front of the scanner is the dotted name.  It ends there, and it is not called. -/
def Faces (scanner : Scanner) (path : List String) (last : String) : Prop :=
  ∃ behind, scanner.cursor.ahead = dottedText path last ++ behind ∧
    ∀ c, behind.head? = some c → isNamePart c = false ∧ c ≠ '.' ∧ c ≠ '('

/-- The scanner behind the dotted name, which has become a label of the scope. -/
def behindName (scanner : Scanner) (path : List String) (last : String) (id : ScopeId) : Scanner :=
  scanner.add (.label ⟨id, last⟩) (scanner.cursor.advance (dottedText path last).length)

variable {setting : Setting} {scanner : Scanner} {path : List String} {last : String} {s : Store}

/-- A name that starts with a letter or an underscore is what the scanner reads next. -/
theorem step_of_faces (faces : scanner.Faces path last) {c : Char}
    (first : (dottedText path last).head? = some c) (start : isNameStart c = true) :
    scanner.step setting = scanner.name setting := by
  obtain ⟨behind, ahead, _⟩ := faces
  obtain ⟨rest, text⟩ := List.head?_eq_some_iff.mp first
  rw [text] at ahead
  exact step_of_isNameStart ahead start setting

theorem name_of_leads (faces : scanner.Faces path last)
    (parts : ∀ name ∈ path, IsNamePart name) (lastPart : IsNamePart last) {id : ScopeId}
    (leads : s.Leads setting.home path id) :
    scanner.name setting s = (.ok (.more (scanner.behindName path last id)), s) := by
  obtain ⟨behind, ahead, ends⟩ := faces
  have cursor : scanner.cursor.advance (dottedText path last).length =
      ⟨scanner.cursor.pos + (dottedText path last).length, behind⟩ := by
    rw [Cursor.advance, ahead, List.drop_left]
  have read : readName s setting.home scanner.cursor =
      .ok (⟨id, last⟩, ⟨scanner.cursor.pos + (dottedText path last).length, behind⟩) := by
    rw [readName, ahead, dottedText, List.append_assoc, followName_of_leads leads parts,
      followName_last lastPart fun c here => ⟨(ends c here).1, (ends c here).2.1⟩, Nat.add_assoc,
      List.length_append]
  have uncalled : behind.head? ≠ some '(' := fun called => (ends '(' called).2.2 rfl
  rw [name, Action.ask_apply, read, behindName, cursor]
  simp only [if_neg uncalled]

theorem name_of_bars (faces : scanner.Faces path last) (parts : ∀ name ∈ path, IsNamePart name)
    {front rear : List String} {stop : String} {between : ScopeId} {fault : Fault}
    (split : path = front ++ stop :: rear) (leads : s.Leads setting.home front between)
    (bars : s.Bars between stop fault) : scanner.name setting s = (.error fault, s) := by
  obtain ⟨behind, ahead, _⟩ := faces
  subst split
  have read : readName s setting.home scanner.cursor = .error fault := by
    have text : dottedText (front ++ stop :: rear) last ++ behind =
        front.flatMap (fun name => name.toList ++ ['.']) ++
          (stop.toList ++ '.' :: (dottedText rear last ++ behind)) := by
      simp [dottedText]
    rw [readName, ahead, text, followName_of_leads leads fun n member =>
        parts n (List.mem_append_left _ member),
      followName_point (parts stop (by simp)), bars.stepInto_eq]
    rfl
  rw [name, Action.ask_apply, read]

end Scanner

theorem Store.Bars.code {s : Store} {id : ScopeId} {name : String} {fault : Fault}
    (bars : s.Bars id name fault) :
    fault.code.number = if (s.lookup id name).isNone then 380 else 328 := by
  cases bars with
  | missing unbound =>
    rw [unbound]
    rfl
  | plain bound other =>
    rw [bound]
    rfl

/-- Dotted names are read and written along their path.  In front of a dotted name that is not
called, the scanner adds a label of the last part in the scope that the parts before it lead to, one
after the other; it fails exactly if one of them has no value, with code 380, or one that is not a
scope, with code 328, and then at the first of these; and the store stays as it is.  If something is
then written through the label, to a slot that was not looked at on the way, the same dotted name
gives the same label in the store after that, and the label has the value that was written. -/
theorem dotted_names_read_back (setting : Setting) (path : List String) (last : String)
    (parts : ∀ name ∈ path ++ [last], IsNamePart name) (scanner : Scanner)
    (faces : scanner.Faces path last) (s : Store) :
    (∀ c, (dottedText path last).head? = some c → isNameStart c = true →
      scanner.step setting = scanner.name setting) ∧
    (scanner.name setting s).2 = s ∧
    (∀ progress, (scanner.name setting s).1 = .ok progress ↔
      ∃ id, s.Leads setting.home path id ∧ progress = .more (scanner.behindName path last id)) ∧
    (∀ fault, (scanner.name setting s).1 = .error fault ↔
      ∃ front stop rear between, path = front ++ stop :: rear ∧
        s.Leads setting.home front between ∧ s.Bars between stop fault ∧
        fault.code.number = if (s.lookup between stop).isNone then 380 else 328) ∧
    ∀ id op v r t, s.Sound .existing → setting.home.index < s.scopes.size →
      s.Leads setting.home path id → Mutation.commit ⟨⟨id, last⟩, op, v⟩ s = (.ok r, t) →
      ¬ s.Examines setting.home path ⟨id, last⟩ →
      (op = .declare → r = v) ∧ Label.resolve ⟨id, last⟩ t = .ok r ∧
      ∀ again : Scanner, again.Faces path last →
        again.name setting t = (.ok (.more (again.behindName path last id)), t) := by
  obtain ⟨front, lastPart⟩ := List.forall_mem_append.mp parts
  have lastPart := List.forall_mem_singleton.mp lastPart
  have reads {id : ScopeId} (leads : s.Leads setting.home path id) :=
    Scanner.name_of_leads faces front lastPart leads
  have either := s.leads_or_bars path setting.home
  refine ⟨fun c first start => scanner.step_of_faces faces first start, ?_, fun progress => ?_,
    fun fault => ?_, fun id op v r t sound old leads written apart => ?_⟩
  · rcases either with ⟨id, leads⟩ | ⟨_, _, _, _, _, split, leads, bars⟩
    · rw [reads leads]
    · rw [Scanner.name_of_bars faces front split leads bars]
  · constructor
    · intro done
      rcases either with ⟨id, leads⟩ | ⟨_, _, _, _, _, split, leads, bars⟩
      · rw [reads leads] at done
        cases done
        exact ⟨id, leads, rfl⟩
      · rw [Scanner.name_of_bars faces front split leads bars] at done
        cases done
    · rintro ⟨id, leads, rfl⟩
      rw [reads leads]
  · constructor
    · intro failed
      rcases either with ⟨id, leads⟩ | ⟨before, stop, rear, between, _, split, leads, bars⟩
      · rw [reads leads] at failed
        cases failed
      · rw [Scanner.name_of_bars faces front split leads bars] at failed
        cases failed
        exact ⟨before, stop, rear, between, split, leads, bars, bars.code⟩
    · rintro ⟨_, _, _, _, split, leads, bars, _⟩
      rw [Scanner.name_of_bars faces front split leads bars]
  · obtain ⟨declared, plain⟩ := Mutation.commit_ok written
    obtain ⟨scope, found⟩ := Store.exists_scope_of_lt (leads.lt_size sound old)
    have bound := Store.lookup_of_binding? (binding?_of_declare found declared)
    have still := leads.of_changedOnly (changedOnly_of_declare declared) apart
    refine ⟨fun same => plain (same ▸ rfl), ?_, fun again facing => ?_⟩
    · rw [Label.resolve, Store.resolve, bound]
    · exact Scanner.name_of_leads facing front lastPart still

/-- The name `m.x` in a scope whose parent binds `m` to a structure with the field `x`, which is
then written. -/
theorem dotted_names_read_back_inherited :
    let ops : List Operation := [.record [("x", .bool false)], .root none,
      .declare ⟨1⟩ "m" (.scope ⟨0⟩), .child ⟨1⟩]
    let s := Store.empty.perform ops
    let setting : Setting := ⟨⟨2⟩, 0⟩
    let scanner : Scanner := ⟨⟨0, "m.x = true".toList⟩, .empty, []⟩
    let t := (Mutation.commit ⟨⟨⟨0⟩, "x"⟩, .declare, .bool true⟩ s).2
    s.Sound .existing ∧ s.Leads ⟨2⟩ ["m"] ⟨0⟩ ∧ scanner.Faces ["m"] "x" ∧
    (scanner.name setting s).1 = .ok (.more (scanner.behindName ["m"] "x" ⟨0⟩)) ∧
    ¬ s.Examines ⟨2⟩ ["m"] ⟨⟨0⟩, "x"⟩ ∧
    scanner.name setting t = (.ok (.more (scanner.behindName ["m"] "x" ⟨0⟩)), t) ∧
    Label.resolve ⟨⟨0⟩, "x"⟩ t = .ok (.bool true) := by
  intro ops s setting scanner t
  have provided : Store.empty.Provides .existing ops := by
    refine ⟨?_, ?_, ?_, ?_, trivial⟩
    · rintro id (_ | ⟨member, inside⟩)
      cases List.mem_singleton.mp member
      cases inside
    · intro id passed
      cases passed
    · rintro id (_ | _ | inside)
      cases inside
      exact Nat.two_pos
    · rintro id ⟨⟩
      exact Nat.one_lt_two
  have sound : s.Sound .existing :=
    (Store.becomes_perform (Store.sound_empty _) provided).sound (Store.sound_empty _)
  have found : s.lookup ⟨2⟩ "m" = some (.scope ⟨0⟩) := by cbv
  have leads : s.Leads ⟨2⟩ ["m"] ⟨0⟩ := .into found (.here ⟨0⟩)
  have parts : ∀ name ∈ ["m"] ++ ["x"], IsNamePart name := by
    refine List.forall_mem_cons.mpr ⟨?_, List.forall_mem_singleton.mpr ?_⟩
    · exact List.forall_mem_singleton.mpr (by decide)
    · exact List.forall_mem_singleton.mpr (by decide)
  have faces : scanner.Faces ["m"] "x" := by
    refine ⟨" = true".toList, rfl, ?_⟩
    rintro c ⟨⟩
    decide
  have apart : ¬ s.Examines ⟨2⟩ ["m"] ⟨⟨0⟩, "x"⟩ := by
    have named {slot : Label} (examines : s.Examines ⟨2⟩ ["m"] slot) : slot.name = "m" := by
      cases examines with
      | here consulted => rfl
      | further bound rest => cases rest
    exact fun examines => absurd (named examines) (by decide)
  have written : Mutation.commit ⟨⟨⟨0⟩, "x"⟩, .declare, .bool true⟩ s = (.ok (.bool true), t) := by
    cbv
  obtain ⟨_, _, reads, _, again⟩ :=
    dotted_names_read_back setting ["m"] "x" parts scanner faces s
  obtain ⟨_, resolved, reread⟩ := again ⟨0⟩ _ _ _ t sound (by decide) leads written apart
  exact ⟨sound, leads, faces, (reads _).mpr ⟨_, leads, rfl⟩, apart, reread scanner faces, resolved⟩

-- A structure that holds itself: the write through `self.self` goes to a slot that is looked at on
-- the way, and the same name cannot be read afterwards.
example :
    let s := (Store.empty.newInstance [("self", .scope ⟨0⟩)]).2
    let scanner : Scanner := ⟨⟨0, "self.self".toList⟩, .empty, []⟩
    let t := (Mutation.commit ⟨⟨⟨0⟩, "self"⟩, .declare, .bool true⟩ s).2
    (scanner.name ⟨⟨0⟩, 0⟩ s).1 = .ok (.more (scanner.behindName ["self"] "self" ⟨0⟩)) ∧
      (scanner.name ⟨⟨0⟩, 0⟩ t).1 = .error (.notNamespace "self" "bool") := by
  constructor <;> cbv

end Scriptlet
