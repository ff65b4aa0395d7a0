import Sprig.Text.Letter
import Sprig.Text.Numeric

/-!
# Words

A word is a run of alphanumeric characters.  Names and keywords are words;
so are the texts that a diagnostic quotes as one piece.
-/

namespace Sprig.Text

/-- Whether a character may stand inside a word. -/
def isAlphanumeric (char : Char) : Bool :=
  isLetter char || isNumeric char

end Sprig.Text
