/-!
# Character classes as tables of intervals

A class of characters is a list of closed intervals of code points, written
in ascending order.  Membership walks the list and stops at the first
interval that begins above the code point, so a plain letter or digit is
decided by the first entries of even a long table.

`coveredBy_iff` is the meaning of the walk: on an ascending table it finds a
code point exactly when some interval holds it.
-/

namespace Sprig.Text

/--
Whether a code point lies in one of the intervals, the first of which that
begins above it ends the search.
-/
def coveredBy : List (Nat × Nat) → Nat → Bool
  | [], _ => false
  | (low, high) :: rest, code =>
    if code < low then
      false
    else
      decide (code ≤ high) || coveredBy rest code

/-- Each interval is nonempty and ends below the beginning of the next. -/
def ascending : List (Nat × Nat) → Bool
  | [] => true
  | [(low, high)] => decide (low ≤ high)
  | (low, high) :: (nextLow, nextHigh) :: rest =>
    decide (low ≤ high) && decide (high < nextLow) &&
      ascending ((nextLow, nextHigh) :: rest)

/-- The number of code points in a table whose intervals are disjoint. -/
def population (table : List (Nat × Nat)) : Nat :=
  table.foldl (fun total interval => total + (interval.2 + 1 - interval.1)) 0

private theorem ascending_tail
    {interval : Nat × Nat}
    {rest : List (Nat × Nat)}
    (ordered : ascending (interval :: rest) = true) :
    ascending rest = true := by
  obtain ⟨low, high⟩ := interval
  cases rest with
  | nil => rfl
  | cons next rest =>
    obtain ⟨nextLow, nextHigh⟩ := next
    simp only [ascending, Bool.and_eq_true] at ordered
    exact ordered.2

/-- Every later interval begins above the first one. -/
private theorem high_lt_of_ascending
    {low high : Nat}
    {rest : List (Nat × Nat)}
    (ordered : ascending ((low, high) :: rest) = true) :
    low ≤ high ∧ ∀ later ∈ rest, high < later.1 := by
  induction rest generalizing low high with
  | nil => simpa [ascending] using ordered
  | cons next rest ih =>
    obtain ⟨nextLow, nextHigh⟩ := next
    simp only [ascending, Bool.and_eq_true, decide_eq_true_eq] at ordered
    obtain ⟨⟨nonempty, below⟩, ordered⟩ := ordered
    obtain ⟨nextNonempty, above⟩ := ih ordered
    refine ⟨nonempty, fun later member => ?_⟩
    rcases List.mem_cons.1 member with rfl | member
    · exact below
    · have := above later member
      omega

/-- On an ascending table the early end of the search loses nothing. -/
theorem coveredBy_iff
    {table : List (Nat × Nat)}
    (ordered : ascending table = true)
    (code : Nat) :
    coveredBy table code = true ↔
      ∃ interval ∈ table, interval.1 ≤ code ∧ code ≤ interval.2 := by
  induction table with
  | nil => simp [coveredBy]
  | cons interval rest ih =>
    obtain ⟨low, high⟩ := interval
    obtain ⟨nonempty, above⟩ := high_lt_of_ascending ordered
    have recursive := ih (ascending_tail ordered)
    by_cases below : code < low
    · simp only [coveredBy, below, ↓reduceIte, Bool.false_eq_true, false_iff]
      rintro ⟨found, member, lower, upper⟩
      rcases List.mem_cons.1 member with rfl | member
      · omega
      · have := above found member
        omega
    · simp only [coveredBy, below, ↓reduceIte, Bool.or_eq_true,
        decide_eq_true_eq, recursive, List.mem_cons, exists_eq_or_imp]
      exact or_congr_left (by omega)

end Sprig.Text
