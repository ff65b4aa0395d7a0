import Sprig.Proofs.Parser.ErrorOffset
import Sprig.Proofs.Parser.Lockstep

/-!
# Errors are local

An error depends on the text up to the token that is quoted and on one
character more, which decides where that token ends.  A call depends on the
text up to its parenthesis.  Whatever follows can neither change the error nor
mask it.

Two texts that part behind a common character are read in step for as long as
that character is ahead.  It must not be the last one of a token that only one
of the texts continues: a fork says that neither text goes on with a word that
ends there, and that a dash begins an arrow in both texts or in none.
-/

namespace Sprig

open Sprig.Text

/-- Two texts behind the last character that they have in common. -/
structure Fork where
  last : Char
  left : List Char
  right : List Char
  word :
    isAlphanumeric last = true →
      left.head?.any isAlphanumeric = false ∧
        right.head?.any isAlphanumeric = false
  arrow : last = '-' → (left.head? = some '>' ↔ right.head? = some '>')

namespace Fork

variable (fork : Fork)

/-- Cursors in front of the same text that ends where the texts part. -/
def Beside (first second : Cursor) : Prop :=
  first.location = second.location ∧
    ∃ common,
      first.rest = common ++ fork.last :: fork.left ∧
        second.rest = common ++ fork.last :: fork.right

variable {fork}
variable {first second : Cursor}

theorem beside_skipBlanks
    (beside : fork.Beside first second)
    (enough : fork.left.length + 1 ≤ first.skipBlanks.rest.length) :
    fork.Beside first.skipBlanks second.skipBlanks := by
  rcases first with ⟨place, rest⟩
  rcases second with ⟨other, otherRest⟩
  rcases beside with ⟨samePlace, common, left, right⟩
  obtain rfl : place = other := samePlace
  obtain rfl : rest = common ++ fork.last :: fork.left := left
  obtain rfl : otherRest = common ++ fork.last :: fork.right := right
  -- If the last common character were a blank too, the first run would pass
  -- it and be left with less than its reserve.
  induction common generalizing place with
  | nil =>
      by_cases blank : isBlank fork.last = true
      · rw [List.nil_append, Cursor.skipBlanks_of_blank blank] at enough
        have left := Cursor.length_skipBlanks_le
          ⟨place.advance fork.last, fork.left⟩
        exact (Nat.not_succ_le_self _ (Nat.le_trans enough left)).elim
      · have solid (rest : List Char) :
            Cursor.AtToken ⟨place, fork.last :: rest⟩ := by
          simpa [Cursor.AtToken] using blank
        rw [List.nil_append, List.nil_append,
          Cursor.skipBlanks_of_atToken (solid _),
          Cursor.skipBlanks_of_atToken (solid _)]
        exact ⟨rfl, [], rfl, rfl⟩
  | cons char common ih =>
      by_cases blank : isBlank char = true
      · rw [List.cons_append, List.cons_append,
          Cursor.skipBlanks_of_blank blank, Cursor.skipBlanks_of_blank blank]
        rw [List.cons_append, Cursor.skipBlanks_of_blank blank] at enough
        exact ih _ enough
      · have solid (rest : List Char) :
            Cursor.AtToken ⟨place, char :: rest⟩ := by
          simpa [Cursor.AtToken] using blank
        rw [List.cons_append, List.cons_append,
          Cursor.skipBlanks_of_atToken (solid _),
          Cursor.skipBlanks_of_atToken (solid _)]
        exact ⟨rfl, char :: common, rfl, rfl⟩

theorem next_eq (beside : fork.Beside first second) :
    first.next? = second.next? := by
  rcases beside with ⟨-, common, left, right⟩
  rw [Cursor.next?, Cursor.next?, left, right]
  cases common with
  | nil =>
      rfl
  | cons char common =>
      rfl

/-- A word ends in front of the fork or at it. -/
theorem takeWhile_eq (beside : fork.Beside first second) :
    first.rest.takeWhile isAlphanumeric =
      second.rest.takeWhile isAlphanumeric := by
  have run : (fork.last :: fork.left).takeWhile isAlphanumeric =
      (fork.last :: fork.right).takeWhile isAlphanumeric := by
    by_cases isWord : isAlphanumeric fork.last = true
    · rcases fork.word isWord with ⟨left, right⟩
      have inside : ∀ char ∈ [fork.last], isAlphanumeric char = true :=
        List.forall_mem_singleton.2 isWord
      exact (takeWhile_append_of_stops inside left).1.trans
        (takeWhile_append_of_stops inside right).1.symm
    · rw [List.takeWhile_cons_of_neg isWord, List.takeWhile_cons_of_neg isWord]
  rcases beside with ⟨-, common, left, right⟩
  rw [left, right, List.takeWhile_append, List.takeWhile_append, run]

theorem arrow_iff
    {place other : Location}
    {rest otherRest : List Char}
    (beside : fork.Beside ⟨place, '-' :: rest⟩ ⟨other, '-' :: otherRest⟩) :
    rest.head? = some '>' ↔ otherRest.head? = some '>' := by
  rcases beside with ⟨-, common, left, right⟩
  cases common with
  | nil =>
      rcases List.cons.inj left with ⟨dash, tail⟩
      rcases List.cons.inj right with ⟨-, otherTail⟩
      rw [tail, otherTail]
      exact fork.arrow dash.symm
  | cons char common =>
      cases left
      cases right
      cases common with
      | nil =>
          exact Iff.rfl
      | cons char common =>
          exact Iff.rfl

theorem beside_advance
    {place other : Location}
    {char : Char}
    {rest otherRest : List Char}
    (beside : fork.Beside ⟨place, char :: rest⟩ ⟨other, char :: otherRest⟩)
    (enough : fork.left.length + 1 ≤ rest.length) :
    fork.Beside ⟨place.advance char, rest⟩ ⟨other.advance char, otherRest⟩ := by
  rcases beside with ⟨samePlace, common, left, right⟩
  cases samePlace
  cases common with
  | nil =>
      cases left
      exact (Nat.not_succ_le_self _ enough).elim
  | cons _ common =>
      cases left
      cases right
      exact ⟨rfl, common, rfl, rfl⟩

/-- The texts are read in step while their last common character is ahead. -/
def lockstep (fork : Fork) : Lockstep where
  Beside := fork.Beside
  reserve := fork.left.length + 1
  view := id
  view_eq beside := congrArg Location.pos beside.1
  skipBlanks := beside_skipBlanks
  next_eq beside _ _ := next_eq beside
  word_eq beside _ _ := takeWhile_eq beside
  arrow_iff := arrow_iff
  advance _ := beside_advance

/-- A failure in front of the fork is a failure of both texts. -/
theorem parse_eq
    {source other : String}
    {error : SyntaxError}
    {after : Cursor}
    {common : List Char}
    (fails : Parser.function (Cursor.start source) = .error error after)
    (ahead : fork.left.length < after.rest.length)
    (left : source.toList = common ++ fork.last :: fork.left)
    (right : other.toList = common ++ fork.last :: fork.right) :
    parse other = .error error := by
  have beside : fork.lockstep.Beside (Cursor.start source)
      (Cursor.start other) :=
    ⟨rfl, common, left, right⟩
  have agreed := Lockstep.keeps_function.agree beside (by rwa [fails])
  rw [fails] at agreed
  rw [parse]
  generalize Parser.function (Cursor.start other) = outcome at agreed
  cases agreed with
  | @error _ found _ _ fault view =>
      rcases error with ⟨expected, pos⟩
      rcases found with ⟨otherFault, otherPos⟩
      cases (fault : expected = otherFault)
      cases (view : pos = otherPos)
      rfl

end Fork

/-! ## How far an error looks ahead -/

/-- The number of characters that are quoted. -/
def Lookahead.width : Lookahead → Nat
  | endOfInput => 0
  | text quoted => quoted.length

/-- A text that agrees with another as far as a prefix of it. -/
theorem exists_append_of_take_eq
    {common rest text : List Char}
    (same : text.take common.length = (common ++ rest).take common.length) :
    ∃ otherRest, text = common ++ otherRest := by
  rw [List.take_left] at same
  rcases List.take_prefix common.length text with ⟨otherRest, split⟩
  rw [same] at split
  exact ⟨otherRest, split.symm⟩

/-- A text that agrees with another one character further. -/
theorem exists_append_of_take_succ_eq
    {common rest text : List Char}
    (same : text.take (common.length + 1) =
      (common ++ rest).take (common.length + 1)) :
    ∃ otherRest, text = common ++ otherRest ∧
      otherRest.head? = rest.head? := by
  have shorter := congrArg (List.take common.length) same
  rw [List.take_take, List.take_take, Nat.min_eq_left (Nat.le_succ _)]
    at shorter
  rcases exists_append_of_take_eq shorter with ⟨otherRest, rfl⟩
  rw [List.take_length_add_append, List.take_length_add_append,
    List.append_cancel_left_eq] at same
  have next := congrArg List.head? same
  rw [List.head?_take, List.head?_take] at next
  exact ⟨otherRest, rfl, next⟩

/-- A quoted text is not empty, and no word that it is goes on behind it. -/
theorem StandsAt.exists_last
    {text : List Char}
    {offset : Nat}
    {quoted : String}
    (stands : StandsAt text offset (.text quoted)) :
    ∃ before last rest,
      text.drop offset = before ++ last :: rest ∧
        quoted.length = before.length + 1 ∧
        (isAlphanumeric last = true →
          rest.head?.any isAlphanumeric = false) := by
  cases stands with
  | word run rest next nonempty inside stops =>
      refine ⟨run.dropLast, run.getLast nonempty, rest, ?_, ?_, fun _ => stops⟩
      · rw [next, List.append_cons, List.dropLast_append_getLast]
      · rw [String.length_ofList, List.length_dropLast]
        exact (Nat.sub_add_cancel (List.length_pos_iff.2 nonempty)).symm
  | mark char rest next notWord =>
      refine ⟨[], char, rest, next, String.length_ofList, ?_⟩
      intro isWord
      rw [notWord] at isWord
      cases isWord

variable {source other : String}
variable {error : SyntaxError}
variable {after : Cursor}

/-- A source is read to its end before its end is unexpected. -/
theorem eq_of_unexpectedAt_end
    {what : String}
    {offset : Nat}
    (unexpected : UnexpectedAt source error what .endOfInput offset)
    (agree : other.toList.take (offset + 1) =
      source.toList.take (offset + 1)) :
    other = source := by
  cases unexpected.stands with
  | endOfInput ended =>
      have whole : other.toList.take (source.toList.length + 1) =
          (source.toList ++ []).take (source.toList.length + 1) := by
        rw [← ended, List.append_nil, agree]
      rcases exists_append_of_take_succ_eq whole with ⟨rest, text, next⟩
      rw [List.head?_nil, List.head?_eq_none_iff] at next
      rw [next, List.append_nil] at text
      exact String.toList_inj.1 text

/-- What stands at an offset stands behind a text of that length. -/
theorem exists_append_of_drop_eq
    {text before rest : List Char}
    {last : Char}
    {offset : Nat}
    (next : text.drop offset = before ++ last :: rest) :
    ∃ common, text = common ++ [last] ++ rest ∧
      common.length = offset + before.length := by
  have inside : offset ≤ text.length := by
    have lengths := congrArg List.length next
    rw [List.length_drop, List.length_append, List.length_cons] at lengths
    omega
  refine ⟨text.take offset ++ before, ?_, ?_⟩
  · rw [← List.append_cons, List.append_assoc, ← next, List.take_append_drop]
  · rw [List.length_append, List.length_take_of_le inside]

/-- A quoted token is as unexpected in front of any other text. -/
theorem parse_eq_of_unexpectedAt
    {what quoted : String}
    {offset : Nat}
    (fails : Parser.function (Cursor.start source) = .error error after)
    (ahead : source.toList.drop offset = after.rest)
    (unexpected : UnexpectedAt source error what (.text quoted) offset)
    (agree : other.toList.take (offset + quoted.length + 1) =
      source.toList.take (offset + quoted.length + 1)) :
    parse other = .error error := by
  rcases unexpected.stands.exists_last with
    ⟨before, last, left, next, width, stops⟩
  rcases exists_append_of_drop_eq next with ⟨common, split, length⟩
  have bound : offset + quoted.length = (common ++ [last]).length := by
    rw [width, List.length_append, length]
    rfl
  rw [bound, split] at agree
  rcases exists_append_of_take_succ_eq agree with ⟨right, text, heads⟩
  -- The texts part behind the last character that is quoted.
  let fork : Fork :=
    { last := last
      left := left
      right := right
      word := fun isWord => ⟨stops isWord, heads ▸ stops isWord⟩
      arrow := fun _ => by rw [heads] }
  rw [← List.append_cons] at split text
  refine fork.parse_eq fails ?_ split text
  rw [← ahead, next, List.length_append]
  exact Nat.lt_of_lt_of_le (Nat.lt_succ_self _) (Nat.le_add_left _ _)

/-- A call is as unsupported in front of any other text. -/
theorem parse_eq_of_calledAt
    {offset paren : Nat}
    (fails : Parser.function (Cursor.start source) = .error error after)
    (ahead : source.toList.length = paren + after.rest.length)
    (called : CalledAt source error offset paren)
    (agree : other.toList.take (paren + 1) = source.toList.take (paren + 1)) :
    parse other = .error error := by
  rcases called.stands with ⟨names, layout, left, -, -, -, next, rfl⟩
  rcases exists_append_of_drop_eq next with ⟨common, split, length⟩
  have bound : offset + layout.text.length + 1 = (common ++ ['(']).length := by
    rw [List.length_append, length]
    rfl
  rw [bound, split] at agree
  rcases exists_append_of_take_eq agree with ⟨right, text⟩
  have notWord : isAlphanumeric '(' = false := by
    decide
  let fork : Fork :=
    { last := '('
      left := left
      right := right
      word := fun isWord => absurd (notWord ▸ isWord) Bool.false_ne_true
      arrow := nofun }
  rw [split, List.length_append, ← bound] at ahead
  rw [← List.append_cons] at split text
  refine fork.parse_eq fails ?_ split text
  show left.length < after.rest.length
  omega

/-- Every text that agrees as far as a bound fails with the same error. -/
def DecidedWithin (source : String) (error : SyntaxError) (bound : Nat) : Prop :=
  ∀ other : String,
    other.toList.take bound = source.toList.take bound →
      parse other = .error error

/--
An error is the same in every text that agrees as far as the quoted token and
one character more, and a call in every text that agrees as far as its
parenthesis.
-/
theorem error_is_local (failed : parse source = .error error) :
    (∃ what found offset,
      UnexpectedAt source error what found offset ∧
        DecidedWithin source error (offset + found.width + 1)) ∨
    ∃ offset paren,
      CalledAt source error offset paren ∧
        DecidedWithin source error (paren + 1) := by
  rcases function_fails_of_parse failed with ⟨after, fails⟩
  rcases Parser.function_fails fails with
    ⟨misfit, tree, wellFormed, part⟩ | call
  · rcases exists_completion wellFormed part with ⟨behind, text, place, -⟩
    rcases unexpectedAt_of_misfit misfit text place with ⟨what, unexpected⟩
    refine .inl ⟨what, after.lookahead, behind.length, unexpected, ?_⟩
    intro other agree
    cases found : after.lookahead with
    | endOfInput =>
        rw [found] at unexpected agree
        rw [eq_of_unexpectedAt_end unexpected agree, failed]
    | text quoted =>
        rw [found] at unexpected agree
        refine parse_eq_of_unexpectedAt fails ?_ unexpected agree
        rw [text, List.drop_left]
  · rcases calledAt_of_callIn call with ⟨offset, paren, called, ahead, -⟩
    exact .inr ⟨offset, paren, called, fun other agree =>
      parse_eq_of_calledAt fails ahead called agree⟩

/-- Behind the error the text may be any other. -/
theorem error_is_local_misfit_and_call :
    (parse "fn f(a: in-t)" =
        .error ⟨.expected "')'" (.text "-"), ⟨1, 11⟩⟩ ∧
      ((∃ what found offset,
        UnexpectedAt "fn f(a: in-t)"
            ⟨.expected "')'" (.text "-"), ⟨1, 11⟩⟩ what found offset ∧
          DecidedWithin "fn f(a: in-t)"
            ⟨.expected "')'" (.text "-"), ⟨1, 11⟩⟩
            (offset + found.width + 1)) ∨
      ∃ offset paren,
        CalledAt "fn f(a: in-t)"
            ⟨.expected "')'" (.text "-"), ⟨1, 11⟩⟩ offset paren ∧
          DecidedWithin "fn f(a: in-t)"
            ⟨.expected "')'" (.text "-"), ⟨1, 11⟩⟩ (paren + 1))) ∧
    (parse "fn f()\x7bx=1y,z (2)" = .error ⟨.callStatement, ⟨1, 11⟩⟩ ∧
      ((∃ what found offset,
        UnexpectedAt "fn f()\x7bx=1y,z (2)"
            ⟨.callStatement, ⟨1, 11⟩⟩ what found offset ∧
          DecidedWithin "fn f()\x7bx=1y,z (2)"
            ⟨.callStatement, ⟨1, 11⟩⟩ (offset + found.width + 1)) ∨
      ∃ offset paren,
        CalledAt "fn f()\x7bx=1y,z (2)"
            ⟨.callStatement, ⟨1, 11⟩⟩ offset paren ∧
          DecidedWithin "fn f()\x7bx=1y,z (2)"
            ⟨.callStatement, ⟨1, 11⟩⟩ (paren + 1))) := by
  have misfit : parse "fn f(a: in-t)" =
      .error ⟨.expected "')'" (.text "-"), ⟨1, 11⟩⟩ := by
    decide +kernel
  have call : parse "fn f()\x7bx=1y,z (2)" =
      .error ⟨.callStatement, ⟨1, 11⟩⟩ := by
    decide +kernel
  exact ⟨⟨misfit, error_is_local misfit⟩, ⟨call, error_is_local call⟩⟩

end Sprig
