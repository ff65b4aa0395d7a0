import Mathlib.Data.List.TakeWhile

/-!
# Longest runs

A reader passes the longest run of characters of a class.  What such a run is
when the text is put together from parts, and what stands behind it.
-/

namespace Sprig.Text

/-- A run of a class ends where the text behind it leaves the class. -/
theorem takeWhile_append_of_stops
    {class? : Char → Bool}
    {text rest : List Char}
    (inside : ∀ char ∈ text, class? char = true)
    (stops : rest.head?.any class? = false) :
    (text ++ rest).takeWhile class? = text ∧
      (text ++ rest).dropWhile class? = rest := by
  rw [List.takeWhile_append_of_pos inside, List.dropWhile_append_of_pos inside]
  cases rest with
  | nil =>
      simp
  | cons char rest =>
      have outside : ¬ class? char = true := by
        simpa using stops
      simp [outside]

/-- Behind the longest run of a class no character of the class comes next. -/
theorem head?_dropWhile (class? : Char → Bool) (text : List Char) :
    (text.dropWhile class?).head?.any class? = false := by
  have stops := List.head?_dropWhile_not class? text
  cases next : (text.dropWhile class?).head? with
  | none =>
      rfl
  | some char =>
      simpa [next] using stops

/-- The run of a class begins the run of any wider class. -/
theorem takeWhile_takeWhile_of_imp
    {narrow wide : Char → Bool}
    (inside : ∀ char, narrow char = true → wide char = true)
    (text : List Char) :
    (text.takeWhile wide).takeWhile narrow = text.takeWhile narrow := by
  rw [List.takeWhile_takeWhile]
  congr 1
  funext char
  rw [Bool.eq_iff_iff, decide_eq_true_iff]
  exact ⟨And.left, fun member => ⟨member, inside char member⟩⟩

end Sprig.Text
