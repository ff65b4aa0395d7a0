import Sprig.Json.Basic
import Sprig.Text.Hex

/-!
# The written form of a JSON value

Every item of an array and every member of an object stands on a line of its
own, two columns further in than its container; an empty container is written
as its two brackets.  A text keeps the printable ASCII characters other than
the quote and the backslash.  Everything else is escaped, with a short escape
where there is one and otherwise with the units of UTF-16 in four lower-case
hexadecimal digits, so the written form is pure ASCII.
-/

namespace Sprig.Json

open Sprig.Text (hex)

/-- One unit of UTF-16 as an escape. -/
def unitEscape (unit : Nat) : List Char :=
  '\\' :: 'u' :: hex 4 unit

/-- A code point as the escapes of its one or two units. -/
def codePointEscape (code : Nat) : List Char :=
  if code < 0x10000 then
    unitEscape code
  else
    unitEscape (0xd800 + (code - 0x10000) / 0x400) ++
      unitEscape (0xdc00 + (code - 0x10000) % 0x400)

/-- A character as it stands inside a written text. -/
def writeChar (char : Char) : List Char :=
  if char = '"' then
    ['\\', '"']
  else if char = '\\' then
    ['\\', '\\']
  else if char = '\n' then
    ['\\', 'n']
  else if char = '\r' then
    ['\\', 'r']
  else if char = '\t' then
    ['\\', 't']
  else if char = '\x08' then
    ['\\', 'b']
  else if char = '\x0c' then
    ['\\', 'f']
  else if 0x20 ≤ char.toNat ∧ char.toNat < 0x7f then
    [char]
  else
    codePointEscape char.toNat

/-- A text between quotes. -/
def writeText (text : String) : List Char :=
  '"' :: text.toList.flatMap writeChar ++ ['"']

/-- A whole number in decimal digits. -/
def writeInt : Int → List Char
  | .ofNat value => Nat.toDigits 10 value
  | .negSucc value => '-' :: Nat.toDigits 10 (value + 1)

/-- A line feed and the indentation of the line that it begins. -/
def newline (depth : Nat) : List Char :=
  '\n' :: List.replicate (2 * depth) ' '

/-- The items of a container, each on its line, between its brackets. -/
def block
    (opening closing : Char)
    (depth : Nat)
    (items : List (List Char)) :
    List Char :=
  match items with
  | [] => [opening, closing]
  | first :: rest =>
    opening :: newline (depth + 1) ++ first ++
      rest.flatMap (fun item => ',' :: newline (depth + 1) ++ item) ++
      newline depth ++ [closing]

mutual

/-- The written form of a value that stands `depth` containers deep. -/
def write (depth : Nat) : Json → List Char
  | .null => ['n', 'u', 'l', 'l']
  | .int value => writeInt value
  | .str text => writeText text
  | .arr items => block '[' ']' depth (writeItems (depth + 1) items)
  | .obj members => block '\x7b' '\x7d' depth (writeMembers (depth + 1) members)

/-- The written forms of the items of an array. -/
def writeItems (depth : Nat) : List Json → List (List Char)
  | [] => []
  | item :: items => write depth item :: writeItems depth items

/-- The written forms of the members of an object, with their names. -/
def writeMembers (depth : Nat) : List (String × Json) → List (List Char)
  | [] => []
  | (name, value) :: members =>
    (writeText name ++ ':' :: ' ' :: write depth value) ::
      writeMembers depth members

end

/-- The written form of a whole value. -/
def render (value : Json) : String :=
  String.ofList (value.write 0)

example :
    (obj [("a", arr [int (-1), null]), ("b", arr []), ("é", str "😀\n")]).render =
      "\x7b\n  \"a\": [\n    -1,\n    null\n  ],\n  \"b\": [],\n" ++
        "  \"\\u00e9\": \"\\ud83d\\ude00\\n\"\n\x7d" := by
  decide +kernel

end Sprig.Json
