import Sprig.Text.CharClass

/-!
# Blank characters

The characters that separate tokens: the space separators of Unicode 14 and the
characters whose bidirectional type is a separator or white space.  The zero
width space and the byte order mark are not among them.
-/

namespace Sprig.Text

/-- Code points of general category `Zs` or bidirectional type `WS`, `B` or `S`. -/
def blankTable : List (Nat × Nat) :=
  [(0x9, 0xd), (0x1c, 0x20), (0x85, 0x85), (0xa0, 0xa0), (0x1680, 0x1680),
   (0x2000, 0x200a), (0x2028, 0x2029), (0x202f, 0x202f), (0x205f, 0x205f),
   (0x3000, 0x3000)]

/-- Whether a character separates tokens and stands for nothing else. -/
def isBlank (char : Char) : Bool :=
  coveredBy blankTable char.toNat

example : ascending blankTable = true := by decide

example : population blankTable = 29 := by decide

end Sprig.Text
