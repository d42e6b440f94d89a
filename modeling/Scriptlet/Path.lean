import Scriptlet.Input
set_option autoImplicit false

/-!
# Paths

Paths are taken apart at slashes, without looking at any file.  The absolute form of a path has no
empty parts and no parts that name the same folder again; parts that lead upwards stay, and so does
a slash at the end.
-/

namespace Scriptlet.Path

/-- The parts of a path between its slashes, empty ones included. -/
def parts : List Char → List (List Char)
  | [] => [[]]
  | c :: rest =>
    if c = '/' then [] :: parts rest
    else
      match parts rest with
      | [] => [[c]]
      | part :: others => (c :: part) :: others

/-- The parts that matter for the place a path leads to. -/
def steps (path : List Char) : List (List Char) :=
  (parts path).filter fun part => part != [] && part != ['.']

/-- How an absolute path starts: exactly two slashes stay two, any other number is one. -/
def root (path : List Char) : List Char :=
  match path.takeWhile (· == '/') with
  | ['/', '/'] => ['/', '/']
  | _ => ['/']

/-- Parts joined by slashes. -/
def join (steps : List (List Char)) : List Char := ['/'].intercalate steps

/-- The absolute form of a path as seen from the folder `current`.  The empty path is kept. -/
def absolute (current path : String) : String :=
  let chars := path.toList
  if chars = [] then path
  else
    let full := if chars.head? = some '/' then chars else current.toList ++ '/' :: chars
    let plain := root full ++ join (steps full)
    let closing := if chars.getLast? = some '/' ∧ plain.getLast? ≠ some '/' then ['/'] else []
    String.ofList (plain ++ closing)

end Scriptlet.Path

namespace Scriptlet

/-- A folder with the files in it, by name. -/
structure Folder where
  files : List (String × List UInt8)

namespace Folder

/-- The bytes a whole path may have. -/
def pathLimit : Nat := 4095

/-- The bytes a part of a path may have. -/
def nameLimit : Nat := 255

/-- What the parts of a path lead to, walked one after the other.  The walk starts `inside` the
folder and leaves it upwards; outside there are only the folders above it.  A file must be the very
end of `path`. -/
def walk (folder : Folder) (path : List Char) (inside : Bool) :
    List (List Char) → Except DeviceFault Input
  | [] => .ok (.failing .isFolder)
  | name :: rest =>
    if name = ['.', '.'] then folder.walk path false rest
    else if nameLimit < (String.ofList name).utf8ByteSize then .error .nameTooLong
    else
      match if inside then folder.files.lookup (String.ofList name) else none with
      | none => .error .notFound
      | some bytes =>
        if rest = [] ∧ (Path.parts path).getLast? = some name then .ok (.ofBytes bytes)
        else .error .notFolder

/-- Opens the file a path leads to from the folder.  A path that starts with a slash starts at the
topmost folder, above which there is only itself. -/
def openFile (folder : Folder) (path : String) : Except DeviceFault Input :=
  let chars := path.toList
  if chars.contains '\x00' then .error .nameBroken
  else if pathLimit < path.utf8ByteSize then .error .nameTooLong
  else if chars = [] then .error .notFound
  else folder.walk chars (chars.head? != some '/') (Path.steps chars)

end Folder

end Scriptlet
