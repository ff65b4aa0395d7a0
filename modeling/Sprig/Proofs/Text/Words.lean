import Mathlib.Data.List.Forall2
import Mathlib.Data.List.TakeWhile
import Sprig.Text.Blank

/-!
# Words between blanks

The words of a text are what is left of it when it is split at its blanks,
without the empty pieces: the longest runs of characters that are not blank.
`words_append_cons` is the one equation about them.  A text that begins with
a word is its first word and the words behind that (`words_cons`), so the
words tell how such a text begins.
-/

namespace Sprig.Text

/-- The longest runs of characters that are not blank, in order. -/
def words (text : List Char) : List (List Char) :=
  (text.splitOnP isBlank).filter (· ≠ [])

@[simp]
theorem words_nil : words [] = [] := rfl

/-- A blank ends a word and begins none. -/
theorem words_append_cons
    {char : Char}
    (blank : isBlank char = true)
    (text rest : List Char) :
    words (text ++ char :: rest) = words text ++ words rest := by
  rw [words, List.splitOnP_append_cons text rest blank, List.filter_append]
  rfl

theorem words_cons_of_blank
    {char : Char}
    (blank : isBlank char = true)
    (rest : List Char) :
    words (char :: rest) = words rest :=
  words_append_cons blank [] rest

/-- A run without blanks is a single word. -/
theorem words_eq_singleton
    {word : List Char}
    (nonempty : word ≠ [])
    (solid : ∀ char ∈ word, isBlank char = false) :
    words word = [word] := by
  rw [words, List.splitOnP_eq_singleton solid]
  simp [nonempty]

/-- Words are the first run without blanks and the words behind it. -/
theorem words_eq_append (text : List Char) :
    words text =
      words (text.takeWhile (!isBlank ·)) ++
        words (text.dropWhile (!isBlank ·)) := by
  have stops := List.head?_dropWhile_not (!isBlank ·) text
  have split : text.takeWhile (!isBlank ·) ++ text.dropWhile (!isBlank ·) =
      text :=
    List.takeWhile_append_dropWhile
  cases next : text.dropWhile (!isBlank ·) with
  | nil =>
      rw [next, List.append_nil] at split
      rw [split, words_nil, List.append_nil]
  | cons char rest =>
      rw [next] at split stops
      have blank : isBlank char = true := by
        simpa using stops
      rw [words_cons_of_blank blank, ← words_append_cons blank, split]

/-- A text that begins with a word is this word and the words behind it. -/
theorem words_cons
    {char : Char}
    (solid : isBlank char = false)
    (rest : List Char) :
    words (char :: rest) =
      (char :: rest.takeWhile (!isBlank ·)) ::
        words (rest.dropWhile (!isBlank ·)) := by
  have kept : (!isBlank char) = true := by
    rw [solid, Bool.not_false]
  have inside : ∀ later ∈ char :: rest.takeWhile (!isBlank ·),
      isBlank later = false := by
    refine List.forall_mem_cons.2 ⟨solid, fun later member => ?_⟩
    exact Bool.not_eq_true' _ ▸
      List.all_eq_true.1 List.all_takeWhile later member
  rw [words_eq_append, List.takeWhile_cons_of_pos (p := (!isBlank ·)) kept,
    List.dropWhile_cons_of_pos (p := (!isBlank ·)) kept,
    words_eq_singleton (List.cons_ne_nil _ _) inside]
  rfl

/-! ## Texts with the same words -/

/-- Blanks in front belong to no word. -/
theorem words_dropWhile (text : List Char) :
    words (text.dropWhile isBlank) = words text := by
  induction text with
  | nil =>
      rfl
  | cons char rest ih =>
      by_cases blank : isBlank char = true
      · rw [List.dropWhile_cons_of_pos blank, ih, words_cons_of_blank blank]
      · rw [List.dropWhile_cons_of_neg blank]

/-- A text that does not begin with a blank begins with its first word. -/
theorem head?_words
    {text : List Char}
    (solid : text.head?.any isBlank = false) :
    (words text).head?.getD [] = text.takeWhile (!isBlank ·) := by
  cases text with
  | nil =>
      rfl
  | cons char rest =>
      have notBlank : isBlank char = false := by
        simpa using solid
      rw [words_cons notBlank, List.takeWhile_cons_of_pos (by simp [notBlank])]
      rfl

/-- A character that begins both texts may be left out. -/
theorem words_eq_of_cons
    {char : Char}
    (solid : isBlank char = false)
    {rest other : List Char}
    (same : words (char :: rest) = words (char :: other)) :
    words rest = words other := by
  rw [words_cons solid, words_cons solid, List.cons.injEq, List.cons.injEq]
    at same
  rw [words_eq_append rest, words_eq_append other, same.1.2, same.2]

/-- Which blanks separate the words plays no part. -/
theorem words_eq_of_interchanged
    {text other : List Char}
    (interchanged : List.Forall₂
      (fun char otherChar =>
        char = otherChar ∨ isBlank char ∧ isBlank otherChar)
      text other) :
    words text = words other := by
  -- The texts are split at the same places into the same pieces, the empty
  -- ones included; equality of words alone would be too weak to go on with.
  have pieces : text.splitOnP isBlank = other.splitOnP isBlank := by
    induction interchanged with
    | nil =>
        rfl
    | @cons char otherChar _ _ same _ ih =>
        have agree : isBlank char = isBlank otherChar := by
          rcases same with rfl | ⟨blank, otherBlank⟩
          · rfl
          · rw [blank, otherBlank]
        rw [List.splitOnP_cons_eq_if_modifyHead,
          List.splitOnP_cons_eq_if_modifyHead, ← agree, ih]
        split
        next =>
          rfl
        next solid =>
          rcases same with rfl | ⟨blank, -⟩
          · rfl
          · exact (solid blank).elim
  rw [words, words, pieces]

/-- Blanks around a text belong to no word. -/
theorem words_surround
    {before behind : List Char}
    (blankBefore : ∀ char ∈ before, isBlank char = true)
    (blankBehind : ∀ char ∈ behind, isBlank char = true)
    (text : List Char) :
    words (before ++ text ++ behind) = words text := by
  have front : words (before ++ text ++ behind) = words (text ++ behind) := by
    rw [List.append_assoc, ← words_dropWhile,
      List.dropWhile_append_of_pos blankBefore, words_dropWhile]
  have none : words behind = [] := by
    rw [← words_dropWhile, List.dropWhile_eq_nil_iff.2 blankBehind, words_nil]
  cases behind with
  | nil =>
      rw [front, List.append_nil]
  | cons blank others =>
      have isBlank := blankBehind blank (.head _)
      rw [words_cons_of_blank isBlank] at none
      rw [front, words_append_cons isBlank, none, List.append_nil]

end Sprig.Text
