import Mathlib.Data.List.Induction
import Sprig.Text.Position

/-!
# Lines and columns in closed form

A location is kept by counting one character at a time.  Here the line and
the column of a place are read off the text behind it: the line is one more
than the number of line feeds, and the column is one more than the number of
characters since the last of them.  `pos_advanceAll_start` says that the two
agree at every place of every text.
-/

namespace Sprig.Text

/-- The line and column of the place behind a text. -/
def lineColumn (behind : List Char) : Pos where
  line := 1 + behind.count '\n'
  col := 1 + (behind.reverse.takeWhile (· ≠ '\n')).length

/-- The line and column of an offset in a text. -/
def posAt (text : List Char) (offset : Nat) : Pos :=
  lineColumn (text.take offset)

theorem lineColumn_append_feed (behind : List Char) :
    lineColumn (behind ++ ['\n']) = ⟨(lineColumn behind).line + 1, 1⟩ := by
  simp [lineColumn, Int.add_assoc]

theorem lineColumn_append_of_ne
    (behind : List Char)
    {char : Char}
    (notFeed : char ≠ '\n') :
    lineColumn (behind ++ [char]) =
      ⟨(lineColumn behind).line, (lineColumn behind).col + 1⟩ := by
  simp [lineColumn, notFeed, Int.add_assoc]

theorem pos_advanceAll_start (behind : List Char) :
    (Location.start.advanceAll behind).pos = lineColumn behind := by
  induction behind using List.reverseRecOn with
  | nil =>
      rfl
  | append_singleton behind char ih =>
      rw [Location.advanceAll_append, Location.advanceAll_cons,
        Location.advanceAll_nil]
      by_cases feed : char = '\n'
      · subst feed
        rw [lineColumn_append_feed, ← ih]
        simp [Location.advance, Location.pos]
      · rw [lineColumn_append_of_ne behind feed, ← ih]
        simp [Location.advance, Location.pos, feed]

end Sprig.Text
