import Mathlib.Data.List.TakeWhile
import Sprig.Proofs.Parser.Progress
import Sprig.Proofs.Syntax.WellFormed
import Sprig.Proofs.Text.Disjoint

/-!
# Two texts read side by side

The parser reads two texts.  A `Lockstep` says which cursors of the two runs
correspond and what is required of corresponding cursors: they see the same
character and the same word, and they still correspond when both have passed
the same character.  The requirements hold only while the first run leaves
enough of its text unread, which is what it keeps in reserve.

`Keeps` is the conclusion for a reader.  From corresponding cursors two runs
have the same outcome: both succeed with trees that differ in their positions
alone and go on from corresponding cursors, or both fail for the same reason.
Every reader of the grammar keeps in step, whatever the lockstep is.
-/

namespace Sprig

open Sprig.Text

/-! ## How symbols are seen -/

namespace Cursor

/-- A word that is a symbol is the whole word that comes next. -/
theorem atSymbol_word
    {cursor : Cursor}
    {word : List Char}
    (isWord : isWordSymbol word = true) :
    cursor.atSymbol word = true ↔
      cursor.rest.takeWhile isAlphanumeric = word := by
  have inside : ∀ char ∈ word, isAlphanumeric char = true := by
    rw [isWordSymbol, Bool.and_eq_true, List.all_eq_true] at isWord
    exact fun char member => isAlphanumeric_of_isLetter (isWord.2 char member)
  have continues (rest : List Char) :
      continuesWord rest = rest.head?.any isAlphanumeric := by
    cases rest with
    | nil =>
        rfl
    | cons char rest =>
        rfl
  rw [atSymbol, isWord, continues, Bool.true_and, Bool.and_eq_true,
    List.isPrefixOf_iff_prefix, Bool.not_eq_true']
  constructor
  · rintro ⟨⟨rest, split⟩, stops⟩
    rw [← split, List.drop_left] at stops
    rw [← split]
    exact (takeWhile_append_of_stops inside stops).1
  · intro run
    have split : cursor.rest = word ++ cursor.rest.dropWhile isAlphanumeric :=
      run ▸ List.takeWhile_append_dropWhile.symm
    constructor
    · exact ⟨_, split.symm⟩
    · rw [split, List.drop_left]
      exact head?_dropWhile isAlphanumeric cursor.rest

/-- An arrow is seen by its two characters. -/
theorem atSymbol_arrow {cursor : Cursor} :
    cursor.atSymbol ['-', '>'] = true ↔
      cursor.rest.head? = some '-' ∧ cursor.rest.tail.head? = some '>' := by
  have notWord : isWordSymbol ['-', '>'] = false := by
    decide
  rw [atSymbol, notWord]
  rcases cursor with ⟨place, rest⟩
  cases rest with
  | nil =>
      simp
  | cons char rest =>
      cases rest with
      | nil =>
          simp
      | cons next rest =>
          simp only [List.isPrefixOf, Bool.false_and, Bool.not_false,
            Bool.and_true, Bool.and_eq_true, beq_iff_eq, List.head?_cons,
            List.tail_cons, Option.some.injEq]
          exact and_congr eq_comm eq_comm

end Cursor

/-! ## Corresponding cursors -/

/-- Corresponding cursors of two runs. -/
structure Lockstep where
  /-- Which cursors correspond. -/
  Beside : Cursor → Cursor → Prop
  /-- How many characters the first run leaves unread. -/
  reserve : Nat
  /-- What corresponding cursors know of their positions. -/
  view : Pos → Pos
  view_eq :
    ∀ {first second : Cursor}, Beside first second →
      view first.pos = view second.pos
  skipBlanks :
    ∀ {first second : Cursor}, Beside first second →
      reserve ≤ first.skipBlanks.rest.length →
        Beside first.skipBlanks second.skipBlanks
  next_eq :
    ∀ {first second : Cursor}, Beside first second →
      first.AtToken → second.AtToken → first.next? = second.next?
  word_eq :
    ∀ {first second : Cursor}, Beside first second →
      first.AtToken → second.AtToken →
        first.rest.takeWhile isAlphanumeric =
          second.rest.takeWhile isAlphanumeric
  arrow_iff :
    ∀ {place other : Location} {rest otherRest : List Char},
      Beside ⟨place, '-' :: rest⟩ ⟨other, '-' :: otherRest⟩ →
        (rest.head? = some '>' ↔ otherRest.head? = some '>')
  advance :
    ∀ {place other : Location} {char : Char} {rest otherRest : List Char},
      isBlank char = false →
        Beside ⟨place, char :: rest⟩ ⟨other, char :: otherRest⟩ →
          reserve ≤ rest.length →
            Beside ⟨place.advance char, rest⟩ ⟨other.advance char, otherRest⟩

/-- The symbols of the grammar, each of which is seen in its own way. -/
inductive IsGrammarSymbol : String → Prop where
  | fn :
      IsGrammarSymbol "fn"
  | arrow :
      IsGrammarSymbol "->"
  | mark
      {symbol : String}
      {char : Char}
      (text : symbol.toList = [char])
      (notLetter : isLetter char = false)
      (notBlank : isBlank char = false) :
      IsGrammarSymbol symbol

theorem IsGrammarSymbol.solid
    {symbol : String}
    (isSymbol : IsGrammarSymbol symbol) :
    ∀ char ∈ symbol.toList, isBlank char = false := by
  cases isSymbol with
  | fn =>
      have text : "fn".toList = ['f', 'n'] := rfl
      rw [text]
      exact List.forall_mem_cons.2 ⟨rfl, List.forall_mem_singleton.2 rfl⟩
  | arrow =>
      have text : "->".toList = ['-', '>'] := rfl
      rw [text]
      exact List.forall_mem_cons.2 ⟨rfl, List.forall_mem_singleton.2 rfl⟩
  | mark text notLetter notBlank =>
      rw [text]
      exact List.forall_mem_singleton.2 notBlank

open Sprig.Parser

namespace Lockstep

variable (lock : Lockstep)
variable {α β γ δ : Type}
variable {first second : Cursor}

/-- Corresponding cursors in front of tokens. -/
structure Level (first second : Cursor) : Prop where
  beside : lock.Beside first second
  atToken : first.AtToken
  otherAtToken : second.AtToken

variable {lock}

theorem level_skipBlanks
    (beside : lock.Beside first second)
    (enough : lock.reserve ≤ first.skipBlanks.rest.length) :
    lock.Level first.skipBlanks second.skipBlanks :=
  ⟨lock.skipBlanks beside enough, first.atToken_skipBlanks,
    second.atToken_skipBlanks⟩

namespace Level

theorem next_eq (level : lock.Level first second) :
    first.next? = second.next? :=
  lock.next_eq level.beside level.atToken level.otherAtToken

/-- Behind a dash the rest of an arrow comes next in both texts or in none. -/
theorem arrow_iff
    (level : lock.Level first second)
    (dash : first.rest.head? = some '-') :
    first.rest.tail.head? = some '>' ↔
      second.rest.tail.head? = some '>' := by
  have next : first.rest.head? = second.rest.head? := level.next_eq
  have beside := level.beside
  rw [dash, eq_comm] at next
  rcases first with ⟨place, rest⟩
  rcases second with ⟨other, otherRest⟩
  rcases List.head?_eq_some_iff.1 dash with ⟨left, rfl⟩
  rcases List.head?_eq_some_iff.1 next with ⟨right, rfl⟩
  exact lock.arrow_iff beside

theorem isEmpty_eq (level : lock.Level first second) :
    first.rest.isEmpty = second.rest.isEmpty := by
  have next : first.rest.head? = second.rest.head? := level.next_eq
  have empty (text : List Char) : text.isEmpty = text.head?.isNone := by
    cases text with
    | nil =>
        rfl
    | cons char text =>
        rfl
  rw [empty, empty, next]

/-- The longest run of a class of word characters is the same. -/
theorem takeWhile_eq
    (level : lock.Level first second)
    {class? : Char → Bool}
    (inside : ∀ char, class? char = true → isAlphanumeric char = true) :
    first.rest.takeWhile class? = second.rest.takeWhile class? := by
  rw [← takeWhile_takeWhile_of_imp inside first.rest,
    ← takeWhile_takeWhile_of_imp inside second.rest,
    lock.word_eq level.beside level.atToken level.otherAtToken]

theorem lookahead_eq (level : lock.Level first second) :
    first.lookahead = second.lookahead := by
  have next : first.rest.head? = second.rest.head? := level.next_eq
  have word := lock.word_eq level.beside level.atToken level.otherAtToken
  rcases first with ⟨place, rest⟩
  rcases second with ⟨other, otherRest⟩
  cases rest with
  | nil =>
      cases otherRest with
      | nil =>
          rfl
      | cons char otherRest =>
          cases next
  | cons char rest =>
      cases otherRest with
      | nil =>
          cases next
      | cons otherChar otherRest =>
          cases next
          by_cases isWord : isAlphanumeric char = true
          · simp only [List.takeWhile_cons_of_pos isWord, List.cons.injEq,
              true_and] at word
            simp only [Cursor.lookahead, word]
          · simp only [Cursor.lookahead, if_neg isWord]

theorem atSymbol_eq
    (level : lock.Level first second)
    {symbol : String}
    (isSymbol : IsGrammarSymbol symbol) :
    first.atSymbol symbol.toList = second.atSymbol symbol.toList := by
  have next : first.rest.head? = second.rest.head? := level.next_eq
  rw [Bool.eq_iff_iff]
  cases isSymbol with
  | fn =>
      rw [Cursor.atSymbol_word rfl, Cursor.atSymbol_word rfl,
        lock.word_eq level.beside level.atToken level.otherAtToken]
  | arrow =>
      rw [show "->".toList = ['-', '>'] from rfl, Cursor.atSymbol_arrow,
        Cursor.atSymbol_arrow, ← next, and_congr_right_iff]
      intro dash
      exact level.arrow_iff dash
  | mark text notLetter notBlank =>
      rw [text, Cursor.atSymbol_char notLetter,
        Cursor.atSymbol_char notLetter, next]

end Level

/-- Cursors that pass the same text keep corresponding. -/
theorem advanceAll
    {text : List Char}
    (solid : ∀ char ∈ text, isBlank char = false)
    {place other : Location}
    {rest otherRest : List Char}
    (beside : lock.Beside ⟨place, text ++ rest⟩ ⟨other, text ++ otherRest⟩)
    (enough : lock.reserve ≤ rest.length) :
    lock.Beside ⟨place.advanceAll text, rest⟩
      ⟨other.advanceAll text, otherRest⟩ := by
  induction text generalizing place other with
  | nil =>
      exact beside
  | cons char text ih =>
      rcases List.forall_mem_cons.1 solid with ⟨first, others⟩
      have left : lock.reserve ≤ (text ++ rest).length := by
        rw [List.length_append]
        exact Nat.le_trans enough (Nat.le_add_left _ _)
      exact ih others (lock.advance first beside left)

/-- A symbol is passed by both runs. -/
theorem beside_drop
    (level : lock.Level first second)
    {symbol : String}
    (isSymbol : IsGrammarSymbol symbol)
    (found : first.atSymbol symbol.toList = true)
    (enough :
      lock.reserve ≤ (first.drop symbol.toList.length).rest.length) :
    lock.Beside (first.drop symbol.toList.length)
      (second.drop symbol.toList.length) := by
  have otherFound := level.atSymbol_eq isSymbol ▸ found
  simp only [Cursor.atSymbol, Bool.and_eq_true, List.isPrefixOf_iff_prefix]
    at found otherFound
  rcases first with ⟨place, rest⟩
  rcases second with ⟨other, otherRest⟩
  rcases found with ⟨⟨left, rfl⟩, -⟩
  rcases otherFound with ⟨⟨right, rfl⟩, -⟩
  simp only [Cursor.drop, List.take_left, List.drop_left] at enough ⊢
  exact lock.advanceAll isSymbol.solid level.beside enough

/-- A run of word characters is passed by both runs. -/
theorem beside_dropWhile
    (level : lock.Level first second)
    {class? : Char → Bool}
    (inside : ∀ char, class? char = true → isAlphanumeric char = true)
    (enough : lock.reserve ≤ (first.dropWhile class?).rest.length) :
    lock.Beside (first.dropWhile class?) (second.dropWhile class?) := by
  have same := level.takeWhile_eq inside
  have beside := level.beside
  rcases first with ⟨place, rest⟩
  rcases second with ⟨other, otherRest⟩
  simp only [Cursor.dropWhile] at same enough ⊢
  rw [← same]
  apply lock.advanceAll _ _ enough
  · intro char member
    exact isBlank_eq_false_of_isAlphanumeric
      (inside char (List.all_eq_true.1 List.all_takeWhile char member))
  · rw [List.takeWhile_append_dropWhile, same,
      List.takeWhile_append_dropWhile]
    exact beside

/-! ## Outcomes of two runs -/

/-- Two runs with the same outcome, in which results are seen by a view. -/
inductive Agree (lock : Lockstep) (see : α → γ) :
    EStateM.Result SyntaxError Cursor α →
      EStateM.Result SyntaxError Cursor α → Prop where
  | ok
      {value other : α} {after otherAfter : Cursor}
      (same : see value = see other)
      (beside : lock.Beside after otherAfter) :
      Agree lock see (.ok value after) (.ok other otherAfter)
  | error
      {error other : SyntaxError} {after otherAfter : Cursor}
      (fault : error.fault = other.fault)
      (view : lock.view error.pos = lock.view other.pos) :
      Agree lock see (.error error after) (.error other otherAfter)

/-- Sequences agree when both of their parts do. -/
theorem agree_bind
    {see : α → γ}
    {seeNext : β → δ}
    {action other : Parser α}
    {next otherNext : α → Parser β}
    (forward : ∀ value, Forward (next value))
    (agree :
      lock.reserve ≤ (finalState (action first)).rest.length →
        lock.Agree see (action first) (other second))
    (goOn :
      ∀ {value otherValue : α} {middle otherMiddle : Cursor},
        action first = .ok value middle →
        other second = .ok otherValue otherMiddle →
        see value = see otherValue →
        lock.Beside middle otherMiddle →
        lock.reserve ≤ (finalState (next value middle)).rest.length →
          lock.Agree seeNext (next value middle)
            (otherNext otherValue otherMiddle))
    (enough :
      lock.reserve ≤ (finalState ((action >>= next) first)).rest.length) :
    lock.Agree seeNext ((action >>= next) first)
      ((other >>= otherNext) second) := by
  cases begun : action first with
  | ok value middle =>
      rw [bind_eq_of_ok begun] at enough ⊢
      rw [begun] at agree
      have agreed := agree (Nat.le_trans enough (forward value middle))
      generalize otherBegun : other second = outcome at agreed
      cases agreed with
      | ok same beside =>
          rw [bind_eq_of_ok otherBegun]
          exact goOn begun otherBegun same beside enough
  | error error middle =>
      rw [bind_eq_of_error begun] at enough ⊢
      rw [begun] at agree
      have agreed := agree enough
      generalize otherBegun : other second = outcome at agreed
      cases agreed with
      | error fault view =>
          rw [bind_eq_of_error otherBegun]
          exact .error fault view

/-- Two readers keep in step. -/
structure Keeps
    (lock : Lockstep)
    (see : α → γ)
    (reader other : Parser α) : Prop where
  forward : Forward reader
  agree :
    ∀ {first second : Cursor}, lock.Beside first second →
      lock.reserve ≤ (finalState (reader first)).rest.length →
        lock.Agree see (reader first) (other second)

namespace Keeps

theorem pure
    {see : α → γ}
    {value other : α}
    (same : see value = see other) :
    lock.Keeps see (Pure.pure value) (Pure.pure other) where
  forward := .pure value
  agree beside _ := .ok same beside

theorem throw
    {see : α → γ}
    {error other : SyntaxError}
    (fault : error.fault = other.fault)
    (view : lock.view error.pos = lock.view other.pos) :
    lock.Keeps see (MonadExcept.throw error) (MonadExcept.throw other) where
  forward := .throw error
  agree _ _ := .error fault view

theorem bind
    {see : α → γ}
    {seeNext : β → δ}
    {action other : Parser α}
    {next otherNext : α → Parser β}
    (begins : lock.Keeps see action other)
    (goesOn :
      ∀ value otherValue, see value = see otherValue →
        lock.Keeps seeNext (next value) (otherNext otherValue)) :
    lock.Keeps seeNext (action >>= next) (other >>= otherNext) where
  forward := .bind begins.forward fun value => (goesOn value value rfl).forward
  agree beside enough :=
    agree_bind (fun value => (goesOn value value rfl).forward)
      (begins.agree beside)
      (fun _ _ same besideNext => (goesOn _ _ same).agree besideNext) enough

/-- A sequence whose first part has the same result in both runs. -/
theorem bind_same
    {seeNext : β → δ}
    {action other : Parser α}
    {next otherNext : α → Parser β}
    (begins : lock.Keeps id action other)
    (goesOn : ∀ value, lock.Keeps seeNext (next value) (otherNext value)) :
    lock.Keeps seeNext (action >>= next) (other >>= otherNext) :=
  begins.bind fun value other same => by
    cases (same : value = other)
    exact goesOn value

theorem ite
    {see : α → γ}
    {condition : Prop}
    [Decidable condition]
    {positive negative other otherwise : Parser α}
    (holds : lock.Keeps see positive other)
    (fails : lock.Keeps see negative otherwise) :
    lock.Keeps see (if condition then positive else negative)
      (if condition then other else otherwise) := by
  split
  · exact holds
  · exact fails

end Keeps

/-! ## Tokens -/

theorem keeps_here : lock.Keeps lock.view here here where
  forward := forwardness.holds_here
  agree beside enough := by
    have level := level_skipBlanks beside enough
    exact .ok (lock.view_eq level.beside) level.beside

theorem keeps_atEnd : lock.Keeps id atEnd atEnd where
  forward := forwardness.holds_atEnd
  agree beside enough := by
    have level := level_skipBlanks beside enough
    exact .ok level.isEmpty_eq level.beside

theorem keeps_atSymbol
    {symbol : String}
    (isSymbol : IsGrammarSymbol symbol) :
    lock.Keeps id (atSymbol symbol) (atSymbol symbol) where
  forward := forwardness.holds_atSymbol symbol
  agree beside enough := by
    have level := level_skipBlanks beside enough
    exact .ok (level.atSymbol_eq isSymbol) level.beside

theorem keeps_accept
    {symbol : String}
    (isSymbol : IsGrammarSymbol symbol) :
    lock.Keeps id (accept symbol) (accept symbol) where
  forward := forwardness.holds_accept symbol
  agree {first second} beside enough := by
    rw [accept_eq] at enough
    rw [accept_eq, accept_eq]
    by_cases found : first.skipBlanks.atSymbol symbol.toList = true
    · rw [if_pos found] at enough ⊢
      have level := level_skipBlanks beside
        (Nat.le_trans enough (Cursor.length_drop_le _ _))
      rw [if_pos (level.atSymbol_eq isSymbol ▸ found)]
      exact .ok rfl (beside_drop level isSymbol found enough)
    · rw [if_neg found] at enough ⊢
      have level := level_skipBlanks beside enough
      rw [if_neg (level.atSymbol_eq isSymbol ▸ found)]
      exact .ok rfl level.beside

theorem keeps_ident? : lock.Keeps id ident? ident? where
  forward := forwardness.holds_ident?
  agree {first second} beside enough := by
    rw [ident?_eq] at enough
    rw [ident?_eq, ident?_eq]
    by_cases begins : first.skipBlanks.next?.any isLetter = true
    · rw [if_pos begins] at enough ⊢
      have level := level_skipBlanks beside
        (Nat.le_trans enough (Cursor.length_dropWhile_le _ _))
      rw [if_pos (level.next_eq ▸ begins)]
      refine .ok ?_ (beside_dropWhile level (fun _ => id) enough)
      rw [level.takeWhile_eq fun _ => id]
    · rw [if_neg begins] at enough ⊢
      have level := level_skipBlanks beside enough
      rw [if_neg (level.next_eq ▸ begins)]
      exact .ok rfl level.beside

theorem keeps_numeral? : lock.Keeps id numeral? numeral? where
  forward := forwardness.holds_numeral?
  agree {first second} beside enough := by
    rw [numeral?_eq] at enough
    rw [numeral?_eq, numeral?_eq]
    have passed : lock.reserve ≤
        (first.skipBlanks.dropWhile isNumeric).rest.length := by
      split at enough
      · exact enough
      · exact enough
    have level := level_skipBlanks beside
      (Nat.le_trans passed (Cursor.length_dropWhile_le _ _))
    have inside (char : Char) := @isAlphanumeric_of_isNumeric char
    have goOn := beside_dropWhile level inside passed
    rw [level.takeWhile_eq inside]
    split
    · exact .ok rfl goOn
    · exact .ok rfl goOn

theorem keeps_failExpecting
    (what : String)
    (see : α → γ) :
    lock.Keeps see (failExpecting what) (failExpecting what) where
  forward := forward_failExpecting what
  agree {first second} beside enough := by
    have level := level_skipBlanks beside enough
    refine .error ?_ (lock.view_eq level.beside)
    exact congrArg (SyntaxFault.expected what) level.lookahead_eq

theorem keeps_require
    {symbol : String}
    (isSymbol : IsGrammarSymbol symbol) :
    lock.Keeps id (require symbol) (require symbol) :=
  .bind_same (keeps_accept isSymbol) fun _ =>
    .ite (.pure rfl) (keeps_failExpecting _ _)

theorem keeps_ident (what : String) :
    lock.Keeps id (ident what) (ident what) := by
  refine .bind_same keeps_ident? fun found => ?_
  cases found with
  | some name =>
      exact .pure rfl
  | none =>
      exact keeps_failExpecting what _

/-! ## Loops -/

/-- Loops agree whose steps do, however many rounds each has to spare. -/
theorem agree_repeated
    {see : α → γ}
    {step : Parser (Option α)}
    (advancing : Advancing step)
    (keeps : lock.Keeps (Option.map see) step step)
    {rounds otherRounds : Nat}
    (suffice : first.rest.length < rounds)
    (otherSuffice : second.rest.length < otherRounds)
    (beside : lock.Beside first second)
    (enough :
      lock.reserve ≤ (finalState (repeated step rounds first)).rest.length) :
    lock.Agree (List.map see) (repeated step rounds first)
      (repeated step otherRounds second) := by
  -- Each step consumes a character of both texts, so the rounds that are left
  -- keep exceeding what is ahead of either run.
  induction rounds generalizing first second otherRounds with
  | zero =>
      exact (Nat.not_lt_zero _ suffice).elim
  | succ rounds ih =>
      cases otherRounds with
      | zero =>
          exact (Nat.not_lt_zero _ otherSuffice).elim
      | succ otherRounds =>
          refine agree_bind ?_ (keeps.agree beside) ?_ enough
          · intro found
            cases found with
            | none =>
                exact .pure []
            | some result =>
                exact .bind (forwardness.holds_repeated keeps.forward rounds)
                  fun _ => .pure _
          · intro found otherFound middle otherMiddle begun otherBegun same
              besideNext enoughNext
            cases found with
            | none =>
                cases otherFound with
                | none =>
                    exact .ok rfl besideNext
                | some result =>
                    cases same
            | some result =>
                cases otherFound with
                | none =>
                    cases same
                | some otherResult =>
                    have consumed := advancing _ _ _ begun
                    have otherConsumed := advancing _ _ _ otherBegun
                    refine agree_bind (fun _ => .pure _)
                      (ih (by omega) (by omega) besideNext) ?_ enoughNext
                    intro results otherResults last otherLast _ _ results_eq
                      besideLast _
                    exact .ok (congrArg₂ List.cons (Option.some.inj same)
                      results_eq) besideLast

theorem keeps_many
    {see : α → γ}
    {step : Parser (Option α)}
    (advancing : Advancing step)
    (keeps : lock.Keeps (Option.map see) step step) :
    lock.Keeps (List.map see) (many step) (many step) where
  forward := forwardness.holds_many keeps.forward
  agree beside enough :=
    agree_repeated advancing keeps (Nat.lt_succ_self _) (Nat.lt_succ_self _)
      beside enough

theorem keeps_afterCommas
    {see : α → γ}
    {item : Parser α}
    (keeps : lock.Keeps see item item) :
    lock.Keeps (List.map see) (afterCommas item) (afterCommas item) := by
  refine keeps_many (advancing_commaItem keeps.forward) ?_
  refine .bind_same (keeps_accept (.mark rfl rfl rfl)) fun _ => .ite ?_ ?_
  · exact keeps.bind fun _ _ same => .pure (congrArg some same)
  · exact .pure rfl

/-! ## The grammar -/

theorem keeps_typeRef :
    lock.Keeps TypeRef.unplaced typeRef typeRef :=
  .bind keeps_here fun _ _ _ =>
  .bind_same (keeps_ident _) fun _ => .pure rfl

theorem keeps_idents (name : String) :
    lock.Keeps id (idents name) (idents name) := by
  refine .bind (keeps_afterCommas (keeps_ident _)) fun others same eq => ?_
  rw [List.map_id, List.map_id] at eq
  exact .pure (congrArg (List.cons name) eq)

/-- A group is seen by its names and its type. -/
theorem unplaced_group
    {pos other : Pos}
    (names : List String)
    {type otherType : TypeRef}
    (same : type.unplaced = otherType.unplaced) :
    Decl.unplaced ⟨pos, names, some type⟩ =
      Decl.unplaced ⟨other, names, some otherType⟩ := by
  simp only [Decl.unplaced, Option.map_some, same]

theorem keeps_decl : lock.Keeps Decl.unplaced decl decl :=
  .bind keeps_here fun _ _ _ =>
  .bind_same (keeps_ident _) fun first =>
  .bind_same (keeps_idents first) fun names =>
  .bind_same (keeps_require (.mark rfl rfl rfl)) fun _ =>
  .bind keeps_typeRef fun _ _ same => .pure (unplaced_group names same)

theorem keeps_decls
    {decl other : Decl}
    (same : decl.unplaced = other.unplaced) :
    lock.Keeps (List.map Decl.unplaced) (decls decl) (decls other) :=
  .bind (keeps_afterCommas keeps_decl) fun _ _ others =>
    .pure (congrArg₂ List.cons same others)

theorem keeps_atom : lock.Keeps Expr.unplaced atom atom := by
  refine .bind keeps_here fun _ _ _ => .bind_same keeps_numeral? fun number => ?_
  cases number with
  | some text =>
      exact .pure rfl
  | none =>
      refine .bind_same keeps_ident? fun found => ?_
      cases found with
      | some name =>
          exact .pure rfl
      | none =>
          exact keeps_failExpecting _ _

theorem keeps_expr (prec : Int) :
    lock.Keeps Expr.unplaced (expr prec) (expr prec) := by
  refine .bind keeps_atom fun first other same => .ite (.pure same) ?_
  refine .bind_same (keeps_atSymbol (.mark rfl rfl rfl)) fun _ => .ite ?_ ?_
  · refine .bind (keeps_afterCommas keeps_atom) fun others more others_eq => ?_
    apply Keeps.pure
    simp only [Expr.unplaced, Expr.listUnplaced_eq_map, List.map_cons, same,
      others_eq]
  · exact .pure same

theorem keeps_initializer? :
    lock.Keeps (Option.map Expr.unplaced) initializer? initializer? :=
  .bind_same (keeps_accept (.mark rfl rfl rfl)) fun _ =>
    .ite (.bind (keeps_expr _) fun _ _ same => .pure (congrArg some same))
      (.pure rfl)

theorem keeps_declStmt
    (pos other : Pos)
    (names : List String) :
    lock.Keeps Stmt.unplaced (declStmt pos names) (declStmt other names) := by
  refine .bind_same (keeps_atSymbol (.mark rfl rfl rfl)) fun _ => .ite ?_ ?_
  · refine .bind keeps_initializer? fun value otherValue same => .pure ?_
    simp only [Stmt.unplaced, List.map_map, same]
    rfl
  · refine .bind keeps_typeRef fun type otherType same => ?_
    refine .bind (keeps_decls (unplaced_group names same))
      fun groups otherGroups groups_eq => ?_
    refine .bind keeps_initializer? fun value otherValue value_eq => .pure ?_
    simp only [Stmt.unplaced, groups_eq, value_eq]

theorem keeps_namesStmt
    {pos other : Pos}
    (view : lock.view pos = lock.view other)
    (name : String) :
    lock.Keeps Stmt.unplaced (namesStmt pos name) (namesStmt other name) := by
  refine .bind_same (keeps_idents name) fun names => ?_
  refine .bind_same (keeps_atSymbol (.mark rfl rfl rfl)) fun _ => .ite ?_ ?_
  · exact .throw rfl view
  · refine .bind_same (keeps_accept (.mark rfl rfl rfl)) fun _ => .ite ?_ ?_
    · refine .bind (keeps_expr _) fun value otherValue same => .pure ?_
      exact congrArg (Stmt.assign .nowhere names) same
    · refine .bind_same (keeps_accept (.mark rfl rfl rfl)) fun _ => .ite ?_ ?_
      · exact keeps_declStmt pos other names
      · exact keeps_failExpecting _ _

theorem keeps_beginsReturn (word : String) :
    lock.Keeps id (beginsReturn word) (beginsReturn word) :=
  .ite
    (.bind_same (keeps_atSymbol (.mark rfl rfl rfl)) fun _ => .pure rfl)
    (.pure rfl)

theorem keeps_stmt : lock.Keeps Stmt.unplaced stmt stmt := by
  refine .bind keeps_here fun pos other view => ?_
  refine .bind_same (keeps_ident _) fun name => ?_
  refine .bind_same (keeps_beginsReturn name) fun _ => .ite ?_ ?_
  · refine .bind (keeps_expr _) fun value otherValue same => .pure ?_
    exact congrArg (Stmt.ret .nowhere) same
  · exact keeps_namesStmt view name

theorem keeps_params :
    lock.Keeps (List.map Decl.unplaced) params params :=
  .bind_same (keeps_atSymbol (.mark rfl rfl rfl)) fun _ =>
    .ite (.pure rfl) (.bind keeps_decl fun _ _ same => keeps_decls same)

theorem keeps_rets :
    lock.Keeps (List.map TypeRef.unplaced) rets rets := by
  refine .bind_same (keeps_accept .arrow) fun _ => .ite ?_ (.pure rfl)
  refine .bind keeps_typeRef fun first other same => ?_
  exact .bind (keeps_afterCommas keeps_typeRef) fun _ _ others =>
    .pure (congrArg₂ List.cons same others)

theorem keeps_bodyStep :
    lock.Keeps (Option.map Stmt.unplaced) bodyStep bodyStep := by
  refine .bind_same (keeps_accept (.mark rfl rfl rfl)) fun _ => ?_
  refine .ite (.pure rfl) (.bind_same keeps_atEnd fun _ => .ite ?_ ?_)
  · exact keeps_failExpecting _ _
  · exact .bind keeps_stmt fun _ _ same => .pure (congrArg some same)

/-- Whole functions are read in step. -/
theorem keeps_function :
    lock.Keeps Function.unplaced function function := by
  refine .bind keeps_here fun pos other _ => ?_
  refine .bind_same (keeps_require .fn) fun _ => ?_
  refine .bind_same (keeps_ident _) fun name => ?_
  refine .bind_same (keeps_require (.mark rfl rfl rfl)) fun _ => ?_
  refine .bind keeps_params fun groups otherGroups groups_eq => ?_
  refine .bind_same (keeps_require (.mark rfl rfl rfl)) fun _ => ?_
  refine .bind keeps_rets fun types otherTypes types_eq => ?_
  refine .bind_same (keeps_require (.mark rfl rfl rfl)) fun _ => ?_
  refine .bind (keeps_many advancing_bodyStep keeps_bodyStep)
    fun body otherBody body_eq => ?_
  refine .bind_same keeps_atEnd fun _ => .ite (.pure ?_) ?_
  · simp only [Function.unplaced, groups_eq, types_eq, body_eq]
  · exact keeps_failExpecting _ _

end Lockstep

end Sprig
