import Scriptlet.Scan.Cursor
import Scriptlet.Text.Alphabetic
import Scriptlet.Text.Numeric
import Scriptlet.Token
set_option autoImplicit false

/-!
# Scanning: dotted names

A name starts with a letter or an underscore.  At each point the reader steps into the namespace
that the part before the point is bound to, so the label that comes out belongs to the last
namespace of the way.
-/

namespace Scriptlet

/-- Whether a name may start with the character. -/
def isNameStart (c : Char) : Bool := isAlphabetic c || c == '_'

/-- Whether a name may go on with the character. -/
def isNamePart (c : Char) : Bool := isAlphabetic c || isNumeric c || c == '_'

/-- The scope that a name is bound to. -/
def Store.stepInto (store : Store) (scope : ScopeId) (name : String) : Except Fault ScopeId :=
  match store.resolve scope name with
  | .error fault => .error fault
  | .ok (.scope next) => .ok next
  | .ok other => .error (.notNamespace name other.typeName)

/-- Reads a dotted name in `scope`, of whose present part `name` was read already. -/
def followName (store : Store) (scope : ScopeId) (name : String) (pos : Nat) :
    List Char → Except Fault (Label × Cursor)
  | [] => .ok (⟨scope, name⟩, ⟨pos, []⟩)
  | c :: rest =>
    if isNamePart c then followName store scope (name.push c) (pos + 1) rest
    else if c = '.' then
      match store.stepInto scope name with
      | .error fault => .error fault
      | .ok next => followName store next "" (pos + 1) rest
    else .ok (⟨scope, name⟩, ⟨pos, c :: rest⟩)

/-- Reads a dotted name in a scope. -/
def readName (store : Store) (scope : ScopeId) (place : Cursor) : Except Fault (Label × Cursor) :=
  followName store scope "" place.pos place.ahead

/-! ## Progress -/

theorem isNamePart_of_isNameStart {c : Char} (start : isNameStart c = true) :
    isNamePart c = true := by
  simp only [isNameStart, isNamePart, Bool.or_eq_true] at *
  rcases start with h | h
  · exact .inl (.inl h)
  · exact .inr h

theorem followName_length {store : Store} {chars : List Char} {label : Label} {after : Cursor} :
    ∀ {scope : ScopeId} {name : String} {pos : Nat},
      followName store scope name pos chars = .ok (label, after) →
      after.ahead.length ≤ chars.length := by
  induction chars with
  | nil =>
    intro scope name pos read
    cases read
    simp
  | cons c rest ih =>
    intro scope name pos read
    unfold followName at read
    split at read
    · exact Nat.le_succ_of_le (ih read)
    · split at read
      · split at read
        · cases read
        · exact Nat.le_succ_of_le (ih read)
      · cases read
        exact Nat.le_refl _

theorem readName_shorter {store : Store} {scope : ScopeId} {place after : Cursor} {c : Char}
    {rest : List Char} {label : Label} (ahead : place.ahead = c :: rest)
    (start : isNameStart c = true) (read : readName store scope place = .ok (label, after)) :
    after.ahead.length < place.ahead.length := by
  rw [readName, ahead, followName, if_pos (isNamePart_of_isNameStart start)] at read
  have := followName_length read
  rw [ahead]
  exact Nat.lt_succ_of_le this

end Scriptlet
