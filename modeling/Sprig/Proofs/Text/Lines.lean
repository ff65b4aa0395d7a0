import Sprig.Proofs.Text.Disjoint

/-!
# Texts of one line

A text is split into lines at line feeds and carriage returns, at the other
vertical controls, at three of the separators of ASCII and at the line and
paragraph separators of Unicode.  All of these are blank, so a text without
blanks is a single line, and so is one that is put together from such texts
and spaces.
-/

namespace Sprig.Text

/-- Code points at which a text is split into lines. -/
def lineBreakTable : List (Nat × Nat) :=
  [(0xa, 0xd), (0x1c, 0x1e), (0x85, 0x85), (0x2028, 0x2029)]

/-- Whether a text is split into lines at a character. -/
def isLineBreak (char : Char) : Bool :=
  coveredBy lineBreakTable char.toNat

example : ascending lineBreakTable = true := by decide

example : population lineBreakTable = 10 := by decide

/-- Every line break is blank. -/
theorem isBlank_of_isLineBreak
    {char : Char}
    (breaks : isLineBreak char = true) :
    isBlank char = true := by
  rcases (coveredBy_iff (by decide) _).1 breaks with
    ⟨interval, listed, lower, upper⟩
  have within : ∀ interval ∈ lineBreakTable, ∃ wider ∈ blankTable,
      wider.1 ≤ interval.1 ∧ interval.2 ≤ wider.2 := by
    decide
  rcases within interval listed with ⟨wider, isBlank, below, above⟩
  exact (coveredBy_iff (by decide) _).2
    ⟨wider, isBlank, Nat.le_trans below lower, Nat.le_trans upper above⟩

/-- A text that is not split into lines. -/
def OneLine (text : String) : Prop :=
  ∀ char ∈ text.toList, isLineBreak char = false

instance : DecidablePred OneLine := fun _ =>
  List.decidableBAll _ _

theorem OneLine.append
    {first second : String}
    (left : OneLine first)
    (right : OneLine second) :
    OneLine (first ++ second) := by
  rw [OneLine, String.toList_append]
  exact List.forall_mem_append.2 ⟨left, right⟩

/-- A text without blanks is a single line. -/
theorem oneLine_of_solid
    {text : String}
    (solid : ∀ char ∈ text.toList, isBlank char = false) :
    OneLine text := by
  intro char listed
  rw [← Bool.not_eq_true]
  intro breaks
  have blank := isBlank_of_isLineBreak breaks
  rw [solid char listed] at blank
  cases blank

theorem oneLine_nat (value : Nat) : OneLine (toString value) := by
  refine oneLine_of_solid fun char listed => ?_
  rw [Nat.toString_eq_ofList_toDigits, String.toList_ofList] at listed
  have digit := Nat.isDigit_of_mem_toDigits (by decide) (by decide) listed
  exact isBlank_eq_false_of_isAlphanumeric
    (isAlphanumeric_of_isNumeric (isNumeric_of_isDigit digit))

theorem oneLine_int (value : Int) : OneLine (toString value) := by
  cases value with
  | ofNat value =>
      exact oneLine_nat value
  | negSucc value =>
      have minus : OneLine "-" := by decide
      exact minus.append (oneLine_nat (value + 1))

end Sprig.Text
