/-!
# Hexadecimal numerals of fixed width

Escapes write a code point with a fixed number of lower-case hexadecimal
digits, the leading zeros included.
-/

namespace Sprig.Text

/-- The last `width` hexadecimal digits of a number. -/
def hex : (width : Nat) → Nat → List Char
  | 0, _ => []
  | width + 1, value => hex width (value / 16) ++ [(value % 16).digitChar]

@[simp]
theorem length_hex (width value : Nat) :
    (hex width value).length = width := by
  induction width generalizing value with
  | zero => rfl
  | succ width ih => simp [hex, ih]

example : hex 4 0xe9 = ['0', '0', 'e', '9'] := rfl

end Sprig.Text
