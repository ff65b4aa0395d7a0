import Sprig.Proofs.Parser.Reading
import Sprig.Proofs.Parser.Trait

/-!
# Cursors move forward

No reader moves its cursor back, whether it succeeds or fails.  `Forward`
states this for one reader, and it is kept when readers follow one another.

The steps of a loop do more: a step that gives a result has consumed a
character.  `Advancing` states this, and it is the reason why the rounds of a
loop, one more than the characters ahead, are never used up.
-/

namespace Sprig

namespace Cursor

theorem length_dropWhile_le (cursor : Cursor) (class? : Char → Bool) :
    (cursor.dropWhile class?).rest.length ≤ cursor.rest.length :=
  (List.dropWhile_suffix class?).length_le

theorem length_skipBlanks_le (cursor : Cursor) :
    cursor.skipBlanks.rest.length ≤ cursor.rest.length :=
  cursor.length_dropWhile_le _

theorem length_drop_le (cursor : Cursor) (count : Nat) :
    (cursor.drop count).rest.length ≤ cursor.rest.length :=
  (List.drop_suffix count cursor.rest).length_le

end Cursor

namespace Parser

variable {α β : Type}
variable {cursor after : Cursor}

/-- The cursor is never moved back. -/
def Forward (reader : Parser α) : Prop :=
  ∀ cursor, (finalState (reader cursor)).rest.length ≤ cursor.rest.length

namespace Forward

theorem pure (value : α) : Forward (Pure.pure value) :=
  fun _ => Nat.le_refl _

theorem throw (error : SyntaxError) :
    Forward (MonadExcept.throw error : Parser α) :=
  fun _ => Nat.le_refl _

theorem bind
    {action : Parser α}
    {next : α → Parser β}
    (first : Forward action)
    (second : ∀ value, Forward (next value)) :
    Forward (action >>= next) := by
  intro cursor
  have moved := first cursor
  cases outcome : action cursor with
  | ok value middle =>
      rw [outcome] at moved
      rw [bind_eq_of_ok outcome]
      exact Nat.le_trans (second value middle) moved
  | error error middle =>
      rw [outcome] at moved
      rw [bind_eq_of_error outcome]
      exact moved

theorem ite
    {condition : Prop}
    [Decidable condition]
    {positive negative : Parser α}
    (first : Forward positive)
    (second : Forward negative) :
    Forward (if condition then positive else negative) := by
  split
  · exact first
  · exact second

/-- What is left after success is no more than what was ahead. -/
theorem length_le
    {reader : Parser α}
    {value : α}
    (forward : Forward reader)
    (read : reader cursor = .ok value after) :
    after.rest.length ≤ cursor.rest.length := by
  have moved := forward cursor
  rw [read] at moved
  exact moved

end Forward

theorem forward_failExpecting (what : String) :
    Forward (failExpecting what : Parser α) :=
  fun cursor => cursor.length_skipBlanks_le

/-- No step moves the cursor back, so no reader does. -/
def forwardness : Trait where
  Holds := Forward
  holds_pure := .pure
  holds_bind := .bind
  holds_get := fun _ => Nat.le_refl _
  holds_skipBlanks := fun cursor => cursor.length_skipBlanks_le
  holds_consume := by
    rintro ⟨location, rest⟩
    cases rest with
    | nil =>
        exact Nat.le_refl _
    | cons char rest =>
        exact Nat.le_succ _
  holds_run := fun class? cursor => cursor.length_dropWhile_le class?
  holds_failExpecting := fun what _ => forward_failExpecting what
  holds_callStatement := fun _ => .throw _
  holds_stalled := fun _ _ => Nat.le_refl _

/-! ## Steps that consume -/

/-- A step that gives a result has consumed a character. -/
def Advancing (step : Parser (Option α)) : Prop :=
  ∀ cursor result after, step cursor = .ok (some result) after →
    after.rest.length < cursor.rest.length

/-- A symbol that is accepted is consumed. -/
theorem length_lt_of_accept
    {symbol : String}
    (nonempty : symbol.toList ≠ [])
    (accepted : accept symbol cursor = .ok true after) :
    after.rest.length < cursor.rest.length := by
  rcases rest_of_accept accepted with ⟨rest, next, rfl, -⟩
  have skipped := cursor.length_skipBlanks_le
  have positive := List.length_pos_iff.2 nonempty
  rw [next, List.length_append] at skipped
  show rest.length < cursor.rest.length
  omega

/-- A name that is read is consumed. -/
theorem length_lt_of_ident
    {what name : String}
    (read : ident what cursor = .ok name after) :
    after.rest.length < cursor.rest.length := by
  rcases reads_of_ident read with ⟨isName, passed⟩
  have positive := List.length_pos_iff.2 isName.solid.1
  have consumed := passed.length_le
  simp only [List.flatMap_cons, List.length_append, token_bare] at consumed
  omega

theorem advancing_commaItem
    {item : Parser α}
    (forward : Forward item) :
    Advancing (commaItem item) := by
  intro cursor result after read
  rcases exists_of_bind_eq_ok read with ⟨accepted, middle, comma, rest⟩
  cases accepted with
  | false =>
      cases rest
  | true =>
      rcases exists_of_bind_eq_ok rest with ⟨value, later, readItem, rest⟩
      cases rest
      exact Nat.lt_of_le_of_lt (forward.length_le readItem)
        (length_lt_of_accept (by decide) comma)

/-- A statement consumes the name that it begins with. -/
theorem length_lt_of_stmt
    {result : Stmt}
    (read : stmt cursor = .ok result after) :
    after.rest.length < cursor.rest.length := by
  rcases exists_of_bind_eq_ok read with ⟨pos, middle, begun, rest⟩
  cases begun
  rcases exists_of_bind_eq_ok rest with ⟨first, firstEnd, readFirst, rest⟩
  have forward : Forward (do
      if ← beginsReturn first then
        let value ← expr tuplePrec
        return .ret cursor.skipBlanks.pos value
      else
        namesStmt cursor.skipBlanks.pos first) :=
    .bind (forwardness.holds_beginsReturn first) fun _ =>
      .ite (.bind (forwardness.holds_expr _) fun _ => .pure _)
        (forwardness.holds_namesStmt _ first)
  have consumed := length_lt_of_ident readFirst
  have skipped := cursor.length_skipBlanks_le
  have moved := forward.length_le rest
  omega

theorem advancing_bodyStep : Advancing bodyStep := by
  intro cursor result after read
  rcases exists_of_bind_eq_ok read with ⟨closed, middle, test, rest⟩
  cases closed with
  | true =>
      cases rest
  | false =>
      rcases exists_of_bind_eq_ok rest with ⟨ended, endEnd, endTest, rest⟩
      cases ended with
      | true =>
          cases rest
      | false =>
          rcases exists_of_bind_eq_ok rest with ⟨next, nextEnd, readNext, rest⟩
          cases rest
          exact Nat.lt_of_lt_of_le (length_lt_of_stmt readNext)
            (Nat.le_trans (Forward.length_le forwardness.holds_atEnd endTest)
              (Forward.length_le (forwardness.holds_accept _) test))

end Parser

end Sprig
