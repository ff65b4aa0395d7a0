import Sprig.Text.Blank
import Sprig.Text.Word

/-!
# Disjoint character classes

Blanks separate tokens, so no blank may stand inside a word.  Two tables have
no code point in common when none of their intervals meet, which is decided
by comparing the intervals pair by pair.  The blank table is compared with
the tables of letters and of numeric characters in this way.
-/

namespace Sprig.Text

/-- Whether no interval of one table meets an interval of the other. -/
def apart (first second : List (Nat × Nat)) : Bool :=
  first.all fun interval =>
    second.all fun other =>
      decide (interval.2 < other.1) || decide (other.2 < interval.1)

/-- A covered code point lies in an interval, whatever their order. -/
theorem exists_interval_of_coveredBy
    {table : List (Nat × Nat)}
    {code : Nat}
    (covered : coveredBy table code = true) :
    ∃ interval ∈ table, interval.1 ≤ code ∧ code ≤ interval.2 := by
  induction table with
  | nil =>
      simp [coveredBy] at covered
  | cons interval rest ih =>
      rcases interval with ⟨low, high⟩
      by_cases below : code < low
      · simp [coveredBy, below] at covered
      · simp only [coveredBy, below, ↓reduceIte, Bool.or_eq_true,
          decide_eq_true_eq] at covered
        rcases covered with inside | later
        · exact ⟨(low, high), .head _, Nat.le_of_not_lt below, inside⟩
        · rcases ih later with ⟨found, member, bounds⟩
          exact ⟨found, .tail _ member, bounds⟩

theorem coveredBy_eq_false_of_apart
    {first second : List (Nat × Nat)}
    (disjoint : apart first second = true)
    {code : Nat}
    (covered : coveredBy first code = true) :
    coveredBy second code = false := by
  rw [← Bool.not_eq_true]
  intro both
  rcases exists_interval_of_coveredBy covered with
    ⟨interval, member, lower, upper⟩
  rcases exists_interval_of_coveredBy both with
    ⟨other, otherMember, otherLower, otherUpper⟩
  have separate := List.all_eq_true.1
    (List.all_eq_true.1 disjoint interval member) other otherMember
  simp only [Bool.or_eq_true, decide_eq_true_eq] at separate
  omega

private theorem apart_blankTable_letterTable :
    apart blankTable letterTable = true := by
  decide +kernel

private theorem apart_blankTable_numericTable :
    apart blankTable numericTable = true := by
  decide +kernel

/-- No blank stands inside a word. -/
theorem isAlphanumeric_eq_false_of_isBlank
    {char : Char}
    (blank : isBlank char = true) :
    isAlphanumeric char = false := by
  rw [isAlphanumeric, Bool.or_eq_false_iff]
  constructor
  · exact coveredBy_eq_false_of_apart apart_blankTable_letterTable blank
  · exact coveredBy_eq_false_of_apart apart_blankTable_numericTable blank

/-- No character of a word separates tokens. -/
theorem isBlank_eq_false_of_isAlphanumeric
    {char : Char}
    (wordly : isAlphanumeric char = true) :
    isBlank char = false := by
  rw [← Bool.not_eq_true]
  intro blank
  rw [isAlphanumeric_eq_false_of_isBlank blank] at wordly
  cases wordly

theorem isAlphanumeric_of_isLetter
    {char : Char}
    (letter : isLetter char = true) :
    isAlphanumeric char = true := by
  simp [isAlphanumeric, letter]

theorem isAlphanumeric_of_isNumeric
    {char : Char}
    (numeric : isNumeric char = true) :
    isAlphanumeric char = true := by
  simp [isAlphanumeric, numeric]

end Sprig.Text
