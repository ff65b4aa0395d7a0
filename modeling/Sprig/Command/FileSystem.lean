import Sprig.Command.FileError

/-!
# File systems

A file system holds directories and files, each at a place, and a working
directory.  A place is a list of names with the innermost one first, so the
surrounding directory is its tail and the root is the empty list.

A path is a text without a NUL.  It is followed name by name from the root or
from the working directory.  Each name needs a directory to be looked up in.
An empty name or a single dot stays there, two dots lead to the surrounding
directory, and any other name must be short enough and must exist.  Only the
last name of a path that is written may be new.
-/

namespace Sprig.Command

/-- The character that ends a path where the system reads one. -/
def nul : Char := '\x00'

/-- A text that can be passed to the system as a path. -/
structure Path where
  text : String
  noNul : nul ∉ text.toList
  deriving DecidableEq, Repr

/-- Why a text is no path. -/
inductive PathError where
  | embeddedNul
  deriving DecidableEq, Repr

/-- The wording of the error. -/
def PathError.message : PathError → String
  | embeddedNul => "embedded null byte"

/-- The path of a text. -/
def Path.ofString (text : String) : Except PathError Path :=
  if noNul : nul ∉ text.toList then
    .ok ⟨text, noNul⟩
  else
    .error .embeddedNul

/-- Names from the inside out. -/
abbrev Place := List String

/-- Directories and files, and where relative paths begin. -/
structure FileSystem where
  directories : List Place
  files : List (Place × ByteArray)
  working : Place

/-- What stands at a place. -/
inductive Entry where
  | directory
  | file (content : ByteArray)

namespace FileSystem

/-- The parts of a path between its slashes. -/
def splitSlash : List Char → List (List Char)
  | [] => [[]]
  | char :: rest =>
    if char = '/' then
      [] :: splitSlash rest
    else
      match splitSlash rest with
      | [] => [[char]]
      | part :: parts => (char :: part) :: parts

/-- The names in the text of a path, in the order in which they are followed. -/
def names (text : String) : List String :=
  (splitSlash text.toList).map String.ofList

/-- The greatest number of bytes in a name. -/
def maxName : Nat := 255

/-- The greatest number of bytes in a path. -/
def maxPath : Nat := 4095

/-- What stands at a place; the root is always there. -/
def entry? (system : FileSystem) (place : Place) : Option Entry :=
  if place.isEmpty || system.directories.contains place then
    some .directory
  else
    (system.files.lookup place).map .file

/-- The place that a name leads to from a directory, be it new or not. -/
def child (system : FileSystem) (place : Place) (name : String) :
    Except FileError Place :=
  match system.entry? place with
  | none => .error .missing
  | some (.file _) => .error .notDirectory
  | some .directory =>
    if name = "" ∨ name = "." then
      .ok place
    else if name = ".." then
      .ok place.tail
    else if name.utf8ByteSize ≤ maxName then
      .ok (name :: place)
    else
      .error .nameTooLong

/-- The same for a name that must exist. -/
def enter (system : FileSystem) (place : Place) (name : String) :
    Except FileError Place := do
  let inner ← system.child place name
  if (system.entry? inner).isSome then
    return inner
  else
    .error .missing

/-- Where a path begins; an empty or overlong path begins nowhere. -/
def origin (system : FileSystem) (path : Path) : Except FileError Place :=
  if path.text = "" then
    .error .missing
  else if maxPath < path.text.utf8ByteSize then
    .error .nameTooLong
  else if path.text.toList.head? = some '/' then
    .ok []
  else
    .ok system.working

/-- The place that a path leads to, all of whose names must exist. -/
def locate (system : FileSystem) (path : Path) : Except FileError Place := do
  let start ← system.origin path
  (names path.text).foldlM system.enter start

/-- The place that a path leads to, whose last name may be new. -/
def target (system : FileSystem) (path : Path) : Except FileError Place := do
  let start ← system.origin path
  let parent ← (names path.text).dropLast.foldlM system.enter start
  system.child parent ((names path.text).getLast?.getD "")

/-- The content of the file at a path. -/
def read (system : FileSystem) (path : Path) :
    Except FileError ByteArray := do
  let place ← system.locate path
  match system.entry? place with
  | some (.file content) => return content
  | some .directory => .error .isDirectory
  | none => .error .missing

/-- The file system with one file of the given content. -/
def put (system : FileSystem) (place : Place) (content : ByteArray) :
    FileSystem :=
  { system with
    files := (place, content) :: system.files.filter (·.1 != place) }

/-- The file system after a file has been written at a path. -/
def write (system : FileSystem) (path : Path) (content : ByteArray) :
    Except FileError FileSystem := do
  let place ← system.target path
  match system.entry? place with
  | some .directory => .error .isDirectory
  | _ => return system.put place content

example : names "a//b/" = ["a", "", "b", ""] := by decide +kernel

end FileSystem

end Sprig.Command
