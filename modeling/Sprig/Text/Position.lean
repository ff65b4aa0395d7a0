/-!
# Places in a text

A `Location` is where a reader stands: the number of characters behind it and
the line and column of the character before it, both counted from one.  A
line feed ends a line; every other character moves one column to the right.

A `Pos` is the line and column that a syntax tree or a diagnostic carries.
Trees may be built by hand with any numbers, so its parts are integers.
-/

namespace Sprig

/-- A line and a column. -/
structure Pos where
  line : Int
  col : Int
  deriving DecidableEq, Repr, Inhabited

/-- The position of what stands in no text. -/
def Pos.nowhere : Pos :=
  ⟨0, 0⟩

namespace Text

/-- A place between two characters of a text. -/
structure Location where
  offset : Nat
  line : Nat
  col : Nat
  deriving DecidableEq, Repr, Inhabited

namespace Location

/-- The place before the first character. -/
def start : Location :=
  ⟨0, 1, 1⟩

/-- The place after one more character. -/
def advance (place : Location) (char : Char) : Location where
  offset := place.offset + 1
  line := if char = '\n' then place.line + 1 else place.line
  col := if char = '\n' then 1 else place.col + 1

/-- The place after a whole text. -/
def advanceAll (place : Location) (chars : List Char) : Location :=
  chars.foldl advance place

/-- The line and column alone. -/
def pos (place : Location) : Pos :=
  ⟨place.line, place.col⟩

@[simp]
theorem advanceAll_nil (place : Location) :
    place.advanceAll [] = place := rfl

@[simp]
theorem advanceAll_cons
    (place : Location)
    (char : Char)
    (chars : List Char) :
    place.advanceAll (char :: chars) =
      (place.advance char).advanceAll chars := rfl

theorem advanceAll_append
    (place : Location)
    (first second : List Char) :
    place.advanceAll (first ++ second) =
      (place.advanceAll first).advanceAll second :=
  List.foldl_append

/-- The offset counts the characters that were passed. -/
theorem offset_advanceAll
    (place : Location)
    (chars : List Char) :
    (place.advanceAll chars).offset = place.offset + chars.length := by
  induction chars generalizing place with
  | nil => rfl
  | cons char chars ih =>
    simp only [advanceAll_cons, ih, advance, List.length_cons]
    omega

end Location

end Text

end Sprig
