import Loremark.Files.Path
import Loremark.Text.Bytes

/-!
# Files

The files that a command can see, each in its place. A place is the list of names on the way to it
from the root. A directory is there if it is listed or if something lies in it.
-/

set_option autoImplicit false

namespace Loremark

/-- What is found in a place. -/
inductive Files.Entry where
  | file (bytes : Bytes)
  | directory
  deriving DecidableEq, Repr, Inhabited

/-- The names on the way to a file or directory from the root. -/
abbrev Files.Place := List Text

/-- Files and directories in their places. -/
structure Files where
  /-- The working directory. -/
  here : Files.Place := []
  entries : List (Files.Place × Files.Entry) := []
  deriving Inhabited

namespace Files

/-- Why nothing can be done with a file. -/
inductive Cause where
  | absent
  | taken
  | notDirectory
  | isDirectory
  | nameTooLong
  deriving DecidableEq, Repr

/-- The number of a cause. -/
def Cause.number : Cause → Nat
  | absent => 2
  | taken => 17
  | notDirectory => 20
  | isDirectory => 21
  | nameTooLong => 36

/-- The wording of a cause. -/
def Cause.wording : Cause → Text
  | absent => "No such file or directory".toList
  | taken => "File exists".toList
  | notDirectory => "Not a directory".toList
  | isDirectory => "Is a directory".toList
  | nameTooLong => "File name too long".toList

/-- A path with which something cannot be done. -/
structure Error where
  cause : Cause
  path : Path
  deriving DecidableEq, Repr

/-- The message for an error. -/
def Error.message (e : Error) : Text :=
  "[Errno ".toList ++ Text.ofNat e.cause.number ++ "] ".toList ++ e.cause.wording ++
    ": ".toList ++ Text.quoted e.path.shown

/-- The name of the directory above. -/
def above : Text := ['.', '.']

/-- The number of bytes that a name may have. -/
def nameLimit : Nat := 255

/-- The place behind a name in a directory. -/
def step (place : Place) (name : Text) : Place :=
  if name == above then place.dropLast else place ++ [name]

/-- What is found in a place. -/
def find? (files : Files) (place : Place) : Option Entry :=
  match files.entries.lookup place with
  | some entry => some entry
  | none =>
    if place.isPrefixOf files.here || files.entries.any (place.isPrefixOf ·.1) then some .directory
    else none

/-- The place that names lead to from another one: all that are gone through have to be
directories, while the last one need not be there. -/
def walk (files : Files) (place : Place) : List Text → Except Cause Place
  | [] => .ok place
  | name :: names =>
    match files.find? place with
    | none => .error .absent
    | some (.file _) => .error .notDirectory
    | some .directory =>
      if nameLimit < (Text.toUtf8 name).length then .error .nameTooLong
      else files.walk (step place name) names

/-- The place where a path begins. -/
def start (files : Files) (p : Path) : Place := if p.slashes == 0 then files.here else []

/-- The place that a path leads to. -/
def place (files : Files) (p : Path) : Except Error Place :=
  (files.walk (files.start p) p.parts).mapError (⟨·, p⟩)

/-- The bytes of a file. -/
def read (files : Files) (p : Path) : Except Error Bytes := do
  match files.find? (← files.place p) with
  | some (.file bytes) => return bytes
  | some .directory => throw ⟨.isDirectory, p⟩
  | none => throw ⟨.absent, p⟩

/-- Puts an entry in a place. -/
def put (files : Files) (place : Place) (entry : Entry) : Files :=
  { files with entries := (place, entry) :: files.entries.filter (·.1 != place) }

/-- Writes a file, in place of the one that is there. -/
def write (files : Files) (p : Path) (bytes : Bytes) : Except Error Files := do
  let place ← files.place p
  match files.find? place with
  | some .directory => throw ⟨.isDirectory, p⟩
  | _ => return files.put place (.file bytes)

/-- Makes a file unless there is one. -/
def touch (files : Files) (p : Path) : Except Error Files := do
  let place ← files.place p
  match files.find? place with
  | some .directory => throw ⟨.isDirectory, p⟩
  | some (.file _) => return files
  | none => return files.put place (.file [])

/-- Makes a directory that names lead to, and those on the way to it, unless they are there. -/
def makeDirectories (files : Files) (place : Place) : List Text → Except Cause Files
  | [] => .ok files
  | name :: names =>
    if nameLimit < (Text.toUtf8 name).length then .error .nameTooLong
    else
      let next := step place name
      match files.find? next with
      | some .directory => files.makeDirectories next names
      | some (.file _) => .error (if names.isEmpty then .taken else .notDirectory)
      | none => (files.put next .directory).makeDirectories next names

/-- Makes the directory of a path, and those on the way to it, unless they are there. -/
def makeDirectory (files : Files) (p : Path) : Except Error Files :=
  (files.makeDirectories (files.start p) p.parts).mapError (⟨·, p⟩)

/-- The names of what lies in the working directory, each with what it is. -/
def listing (files : Files) : List (Text × Entry) :=
  (files.entries.filterMap fun (place, entry) =>
    if files.here.isPrefixOf place then
      match place.drop files.here.length with
      | [] => none
      | [name] => some (name, entry)
      | name :: _ => some (name, .directory)
    else none).eraseDups

end Files

end Loremark
