import Sprig.Text.Hex
import Sprig.Text.Printable

/-!
# Quoted text

A message that names a file shows its path between quotes.  The quotes are
single ones, and double ones for a path that holds a single quote and no
double one.  The backslash and the quote in use are escaped with a backslash,
three controls have a letter of their own, and every other character that is
not printable is written as a numeral: two digits after `x`, four after `u`
or eight after `U`, whichever first suffices.
-/

namespace Sprig.Text

/-- The quote that needs the fewest escapes, the single one if both would. -/
def quoteFor (text : List Char) : Char :=
  if text.contains '\'' && !text.contains '"' then '"' else '\''

/-- A character as a numeral of the shortest of the three widths. -/
def numeralEscape (char : Char) : List Char :=
  if char.toNat ≤ 0xff then
    '\\' :: 'x' :: hex 2 char.toNat
  else if char.toNat ≤ 0xffff then
    '\\' :: 'u' :: hex 4 char.toNat
  else
    '\\' :: 'U' :: hex 8 char.toNat

/-- A character as it stands between quotes of the given kind. -/
def quotedChar (quote char : Char) : List Char :=
  if char = quote ∨ char = '\\' then
    ['\\', char]
  else if char = '\t' then
    ['\\', 't']
  else if char = '\n' then
    ['\\', 'n']
  else if char = '\r' then
    ['\\', 'r']
  else if isPrintable char then
    [char]
  else
    numeralEscape char

/-- A text between quotes, on one line and without controls. -/
def quoted (text : String) : String :=
  let quote := quoteFor text.toList
  String.ofList
    (quote :: text.toList.flatMap (quotedChar quote) ++ [quote])

example : quoted "d" = "'d'" := by decide +kernel

example : quoted "d'x" = "\"d'x\"" := by decide +kernel

example : quoted "'\"\\" = "'\\'\"\\\\'" := by decide +kernel

example : quoted "\t\u007f\u200b" = "'\\t\\x7f\\u200b'" := by
  decide +kernel

end Sprig.Text
