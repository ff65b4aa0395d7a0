import Sprig.Parser.Error
import Sprig.Text.Blank
import Sprig.Text.Word

/-!
# Cursors

A cursor stands between two characters of a text.  It knows its location and
the characters that are still ahead; what lies behind it is never read again.
-/

namespace Sprig

open Sprig.Text

/-- A place in a text and what follows it. -/
structure Cursor where
  location : Location
  rest : List Char
  deriving DecidableEq, Repr, Inhabited

namespace Cursor

/-- The cursor in front of a whole text. -/
def start (source : String) : Cursor :=
  ⟨.start, source.toList⟩

/-- The line and column of the next character. -/
def pos (cursor : Cursor) : Pos :=
  cursor.location.pos

/-- The next character. -/
def next? (cursor : Cursor) : Option Char :=
  cursor.rest.head?

/-- The cursor a number of characters further on. -/
def drop (cursor : Cursor) (count : Nat) : Cursor where
  location := cursor.location.advanceAll (cursor.rest.take count)
  rest := cursor.rest.drop count

/-- The cursor behind the longest run of characters of a class. -/
def dropWhile (cursor : Cursor) (class? : Char → Bool) : Cursor where
  location := cursor.location.advanceAll (cursor.rest.takeWhile class?)
  rest := cursor.rest.dropWhile class?

/-- The cursor in front of the next character that is not blank. -/
def skipBlanks (cursor : Cursor) : Cursor :=
  cursor.dropWhile isBlank

/-- The word or the other character that comes next. -/
def lookahead (cursor : Cursor) : Lookahead :=
  match cursor.rest with
  | [] => .endOfInput
  | char :: rest =>
    if isAlphanumeric char then
      .text (String.ofList (char :: rest.takeWhile isAlphanumeric))
    else
      .text (String.ofList [char])

/-- Whether a symbol is a word, which must not be followed by more of one. -/
def isWordSymbol (symbol : List Char) : Bool :=
  !symbol.isEmpty && symbol.all isLetter

/-- Whether a text begins with a character that could continue a word. -/
def continuesWord : List Char → Bool
  | [] => false
  | char :: _ => isAlphanumeric char

/-- Whether a symbol comes next, on its own if it is a word. -/
def atSymbol (cursor : Cursor) (symbol : List Char) : Bool :=
  symbol.isPrefixOf cursor.rest &&
    !(isWordSymbol symbol && continuesWord (cursor.rest.drop symbol.length))

/-- A symbol that comes next is no longer than what is left. -/
theorem length_le_of_atSymbol
    {cursor : Cursor}
    {symbol : List Char}
    (found : cursor.atSymbol symbol = true) :
    symbol.length ≤ cursor.rest.length := by
  simp only [atSymbol, Bool.and_eq_true, List.isPrefixOf_iff_prefix] at found
  exact found.1.length_le

end Cursor

end Sprig
