import Sprig.Proofs.Parser.Viability

/-!
# Tests for tokens

A parser has four tests for what comes next: whether a symbol does, which may
leave the symbol alone or consume it, and whether a name or a number does.
There is no backtracking, so the parser relies on two things.  A test that
succeeds takes a whole token: a name or a number is as long as it can be, and
a symbol that is a word is not continued.  A test that fails has passed blanks
and nothing else, so any test may follow it as if it had not been made.

Both are stated with the offsets of a source.  `RunAt` describes longest runs
of a class of characters by the characters alone, without reference to how a
reader passes them; the first offset behind the blanks is the end of such a
run.  `TokenTest.Concludes` lists how each test can end at that offset.
-/

namespace Sprig

open Sprig.Text

/-! ## Runs and symbols at offsets -/

/-- The longest run of a class of characters between two offsets. -/
structure RunAt
    (class? : Char → Bool)
    (text : List Char)
    (first last : Nat) : Prop where
  forward : first ≤ last
  inside : last ≤ text.length
  belongs : ∀ index, first ≤ index → index < last →
    text[index]?.any class? = true
  ends : text[last]?.any class? = false

/-- A longest run ends at a single offset. -/
theorem RunAt.unique
    {class? : Char → Bool}
    {text : List Char}
    {first last other : Nat}
    (run : RunAt class? text first last)
    (also : RunAt class? text first other) :
    last = other := by
  rcases Nat.lt_trichotomy last other with shorter | equal | longer
  · have inside := also.belongs last run.forward shorter
    rw [run.ends] at inside
    cases inside
  · exact equal
  · have inside := run.belongs other also.forward longer
    rw [also.ends] at inside
    cases inside

/-- A run that stands at an offset, and what follows it is of no such class. -/
theorem runAt_of_drop
    {class? : Char → Bool}
    {text run rest : List Char}
    {first : Nat}
    (inside : first ≤ text.length)
    (split : text.drop first = run ++ rest)
    (belongs : ∀ char ∈ run, class? char = true)
    (stops : rest.head?.any class? = false) :
    RunAt class? text first (first + run.length) where
  forward := Nat.le_add_right _ _
  inside := by
    have lengths := congrArg List.length split
    rw [List.length_drop, List.length_append] at lengths
    omega
  belongs := by
    intro index begun before
    rcases Nat.exists_eq_add_of_le begun with ⟨further, rfl⟩
    have taken : further < run.length := by
      omega
    rw [← List.getElem?_drop, split, List.getElem?_append_left taken,
      List.getElem?_eq_getElem taken]
    exact belongs _ (List.getElem_mem taken)
  ends := by
    rw [← List.getElem?_drop, split,
      List.getElem?_append_right (Nat.le_refl _), Nat.sub_self,
      ← List.head?_eq_getElem?]
    exact stops

/-- What is taken from an offset on is a longest run. -/
theorem runAt_takeWhile
    {text : List Char}
    {first : Nat}
    (inside : first ≤ text.length)
    (class? : Char → Bool) :
    RunAt class? text first
      (first + ((text.drop first).takeWhile class?).length) :=
  runAt_of_drop inside List.takeWhile_append_dropWhile.symm
    (List.all_eq_true.1 List.all_takeWhile) (head?_dropWhile _ _)

/-- A run is empty where it ends at once. -/
theorem RunAt.extract_eq_nil_iff
    {class? : Char → Bool}
    {text : List Char}
    {first last : Nat}
    (run : RunAt class? text first last) :
    text.extract first last = [] ↔ last = first := by
  have forward := run.forward
  have inside := run.inside
  rw [← List.length_eq_zero_iff, List.extract_eq_take_drop, List.length_take,
    List.length_drop]
  omega

/-- The characters of a run are those that are taken from its first offset. -/
theorem extract_takeWhile
    (class? : Char → Bool)
    (text : List Char)
    (first : Nat) :
    text.extract first
        (first + ((text.drop first).takeWhile class?).length) =
      (text.drop first).takeWhile class? := by
  rw [List.extract_eq_take_drop, Nat.add_sub_cancel_left]
  exact (List.prefix_iff_eq_take.1 (List.takeWhile_prefix class?)).symm

/-- A symbol stands at an offset, and if it is a word it ends there. -/
structure SymbolAt
    (text : List Char) (offset : Nat) (symbol : String) : Prop where
  stands : symbol.toList <+: text.drop offset
  ends : symbol ≠ "" → (∀ char ∈ symbol.toList, isLetter char = true) →
    text[offset + symbol.length]?.any isAlphanumeric = false

/-! ## Cursors at offsets -/

namespace Cursor

/-- The cursor at an offset of a source. -/
def ofOffset (source : String) (offset : Nat) : Cursor :=
  (start source).drop offset

theorem drop_drop (cursor : Cursor) (first second : Nat) :
    (cursor.drop first).drop second = cursor.drop (first + second) := by
  simp only [drop, List.take_add, Location.advanceAll_append, List.drop_drop]

/-- A run that is passed is as many characters as it is long. -/
theorem dropWhile_eq_drop (cursor : Cursor) (class? : Char → Bool) :
    cursor.dropWhile class? =
      cursor.drop (cursor.rest.takeWhile class?).length := by
  have split : cursor.rest =
      cursor.rest.takeWhile class? ++ cursor.rest.dropWhile class? :=
    List.takeWhile_append_dropWhile.symm
  generalize taken : cursor.rest.takeWhile class? = run at split
  generalize left : cursor.rest.dropWhile class? = rest at split
  rw [dropWhile, drop, taken, left, split, List.take_left, List.drop_left]

variable (source : String)
variable (offset : Nat)

theorem rest_ofOffset :
    (ofOffset source offset).rest = source.toList.drop offset := rfl

theorem drop_ofOffset (count : Nat) :
    (ofOffset source offset).drop count = ofOffset source (offset + count) :=
  drop_drop (start source) offset count

theorem dropWhile_ofOffset (class? : Char → Bool) :
    (ofOffset source offset).dropWhile class? =
      ofOffset source
        (offset + ((source.toList.drop offset).takeWhile class?).length) := by
  rw [dropWhile_eq_drop, drop_ofOffset, rest_ofOffset]

/-- A run of a class at an offset, as it is read and as it is passed. -/
theorem exists_runAt
    (inside : offset ≤ source.toList.length)
    (class? : Char → Bool) :
    ∃ last,
      RunAt class? source.toList offset last ∧
        (ofOffset source offset).rest.takeWhile class? =
          source.toList.extract offset last ∧
        (ofOffset source offset).dropWhile class? = ofOffset source last :=
  ⟨_, runAt_takeWhile inside class?, (extract_takeWhile ..).symm,
    dropWhile_ofOffset source offset class?⟩

theorem next?_ofOffset :
    (ofOffset source offset).next? = source.toList[offset]? :=
  List.head?_drop

theorem continuesWord_eq (text : List Char) :
    continuesWord text = text.head?.any isAlphanumeric := by
  cases text with
  | nil =>
      rfl
  | cons char rest =>
      rfl

theorem isWordSymbol_iff (symbol : String) :
    isWordSymbol symbol.toList = true ↔
      symbol ≠ "" ∧ ∀ char ∈ symbol.toList, isLetter char = true := by
  simp [isWordSymbol]

/-- A cursor sees a symbol exactly where the symbol stands. -/
theorem atSymbol_ofOffset_iff (symbol : String) :
    (ofOffset source offset).atSymbol symbol.toList = true ↔
      SymbolAt source.toList offset symbol := by
  have next : continuesWord
      ((source.toList.drop offset).drop symbol.toList.length) =
        source.toList[offset + symbol.length]?.any isAlphanumeric := by
    rw [continuesWord_eq, List.drop_drop, List.head?_drop,
      String.length_toList]
  rw [atSymbol, rest_ofOffset, next, Bool.and_eq_true,
    List.isPrefixOf_iff_prefix, Bool.not_eq_true', Bool.and_eq_false_imp,
    isWordSymbol_iff]
  constructor
  · rintro ⟨stands, ends⟩
    exact ⟨stands, fun nonempty letters => ends ⟨nonempty, letters⟩⟩
  · rintro ⟨stands, ends⟩
    exact ⟨stands, fun word => ends word.1 word.2⟩

end Cursor

namespace Parser

/-! ## The tests -/

/-- A test for a token that may come next. -/
inductive TokenTest where
  | peek (symbol : String)
  | accept (symbol : String)
  | name
  | number
  deriving DecidableEq, Repr

/-- What a test answers. -/
inductive Answer where
  | decided (found : Bool)
  | read (text : Option String)
  deriving DecidableEq, Repr

/-- Whether a test has failed. -/
def Answer.isNegative : Answer → Bool
  | decided found => !found
  | read text => text.isNone

namespace TokenTest

/-- The test as the parser makes it. -/
def perform : TokenTest → Parser Answer
  | peek symbol => do return .decided (← atSymbol symbol)
  | accept symbol => do return .decided (← Parser.accept symbol)
  | name => do return .read (← ident?)
  | number => do return .read (← numeral?)

/--
How a test ends where the next token may begin: its answer, and the offset at
which it leaves the cursor.
-/
inductive Concludes (text : List Char) (place : Nat) :
    TokenTest → Answer → Nat → Prop where
  | seen
      {symbol : String}
      (stands : SymbolAt text place symbol) :
      Concludes text place (peek symbol) (.decided true) place
  | unseen
      {symbol : String}
      (missing : ¬ SymbolAt text place symbol) :
      Concludes text place (peek symbol) (.decided false) place
  | accepted
      {symbol : String}
      (stands : SymbolAt text place symbol) :
      Concludes text place (accept symbol) (.decided true)
        (place + symbol.length)
  | refused
      {symbol : String}
      (missing : ¬ SymbolAt text place symbol) :
      Concludes text place (accept symbol) (.decided false) place
  | named
      {last : Nat}
      (letter : text[place]?.any isLetter = true)
      (run : RunAt isAlphanumeric text place last) :
      Concludes text place name
        (.read (some (String.ofList (text.extract place last)))) last
  | unnamed
      (other : text[place]?.any isLetter = false) :
      Concludes text place name (.read none) place
  | counted
      {last : Nat}
      (nonempty : place < last)
      (run : RunAt isNumeric text place last) :
      Concludes text place number
        (.read (some (String.ofList (text.extract place last)))) last
  | uncounted
      (other : text[place]?.any isNumeric = false) :
      Concludes text place number (.read none) place

/-! ## Tests pass blanks first -/

/-- The blanks in front of a token do not matter to a test. -/
theorem perform_skipBlanks (test : TokenTest) (cursor : Cursor) :
    test.perform cursor.skipBlanks = test.perform cursor := by
  cases test with
  | peek symbol =>
      have same : atSymbol symbol cursor.skipBlanks = atSymbol symbol cursor := by
        rw [atSymbol_eq, atSymbol_eq, Cursor.skipBlanks_skipBlanks]
      simp only [perform, bind, EStateM.bind, same]
  | accept symbol =>
      have same : Parser.accept symbol cursor.skipBlanks =
          Parser.accept symbol cursor := by
        rw [accept_eq, accept_eq, Cursor.skipBlanks_skipBlanks]
      simp only [perform, bind, EStateM.bind, same]
  | name =>
      have same : ident? cursor.skipBlanks = ident? cursor := by
        rw [ident?_eq, ident?_eq, Cursor.skipBlanks_skipBlanks]
      simp only [perform, bind, EStateM.bind, same]
  | number =>
      have same : numeral? cursor.skipBlanks = numeral? cursor := by
        rw [numeral?_eq, numeral?_eq, Cursor.skipBlanks_skipBlanks]
      simp only [perform, bind, EStateM.bind, same]

/-- A test that fails has passed blanks and nothing else. -/
theorem eq_skipBlanks_of_isNegative
    {test : TokenTest}
    {cursor after : Cursor}
    {answer : Answer}
    (performed : test.perform cursor = .ok answer after)
    (negative : answer.isNegative = true) :
    after = cursor.skipBlanks := by
  cases test with
  | peek symbol =>
      rcases exists_of_bind_eq_ok performed with ⟨found, middle, seen, rest⟩
      cases rest
      rw [atSymbol_eq] at seen
      cases seen
      rfl
  | accept symbol =>
      rcases exists_of_bind_eq_ok performed with ⟨found, middle, taken, rest⟩
      cases rest
      cases found with
      | true =>
          cases negative
      | false =>
          exact eq_skipBlanks_of_accept taken
  | name =>
      rcases exists_of_bind_eq_ok performed with ⟨found, middle, read, rest⟩
      cases rest
      cases found with
      | some text =>
          cases negative
      | none =>
          exact eq_skipBlanks_of_ident? read
  | number =>
      rcases exists_of_bind_eq_ok performed with ⟨found, middle, read, rest⟩
      cases rest
      cases found with
      | some text =>
          cases negative
      | none =>
          exact (eq_skipBlanks_of_numeral? read).1

/-- Tests are made one after the other, and all of them fail. -/
inductive Failing : List TokenTest → Cursor → Cursor → Prop where
  | none (cursor : Cursor) :
      Failing [] cursor cursor
  | more
      {test : TokenTest} {tests : List TokenTest} {answer : Answer}
      {cursor middle after : Cursor}
      (performed : test.perform cursor = .ok answer middle)
      (negative : answer.isNegative = true)
      (others : Failing tests middle after) :
      Failing (test :: tests) cursor after

/-- Any number of tests that fail pass the same blanks as one. -/
theorem Failing.skipBlanks_eq
    {tests : List TokenTest}
    {cursor after : Cursor}
    (failing : Failing tests cursor after) :
    after.skipBlanks = cursor.skipBlanks ∧
      (tests ≠ [] → after = cursor.skipBlanks) := by
  induction failing with
  | none cursor =>
      exact ⟨rfl, fun nonempty => (nonempty rfl).elim⟩
  | @more test tests _ cursor middle after performed negative others ih =>
      -- The first test passes the blanks, so the others find none to pass.
      have stopped := eq_skipBlanks_of_isNegative performed negative
      rw [stopped, Cursor.skipBlanks_skipBlanks] at ih
      refine ⟨ih.1, fun _ => ?_⟩
      by_cases last : tests = []
      · subst last
        cases others
        exact stopped
      · exact ih.2 last

/-- Tests that have failed do not matter to the next test. -/
theorem Failing.perform_eq
    {tests : List TokenTest}
    {cursor after : Cursor}
    (failing : Failing tests cursor after)
    (next : TokenTest) :
    next.perform after = next.perform cursor := by
  rw [← perform_skipBlanks, failing.skipBlanks_eq.1, perform_skipBlanks]

/-! ## Tests at offsets -/

section

variable {source : String}
variable {offset place : Nat}

/-- Each test ends as it must where no blank comes next. -/
theorem exists_concludes
    (inside : place ≤ source.toList.length)
    (here : (Cursor.ofOffset source place).skipBlanks =
      Cursor.ofOffset source place)
    (test : TokenTest) :
    ∃ answer last,
      test.perform (Cursor.ofOffset source place) =
          .ok answer (Cursor.ofOffset source last) ∧
        test.Concludes source.toList place answer last := by
  cases test with
  | peek symbol =>
      have seen := atSymbol_eq symbol (Cursor.ofOffset source place)
      have stands := Cursor.atSymbol_ofOffset_iff source place symbol
      rw [here] at seen
      cases found : (Cursor.ofOffset source place).atSymbol symbol.toList with
      | true =>
          rw [found] at seen stands
          exact ⟨_, _, bind_eq_of_ok seen _, .seen (stands.1 rfl)⟩
      | false =>
          rw [found] at seen stands
          refine ⟨_, _, bind_eq_of_ok seen _, .unseen fun stood => ?_⟩
          cases stands.2 stood
  | accept symbol =>
      have taken := accept_eq symbol (Cursor.ofOffset source place)
      have stands := Cursor.atSymbol_ofOffset_iff source place symbol
      rw [here, Cursor.drop_ofOffset, String.length_toList] at taken
      split_ifs at taken with found
      · exact ⟨_, _, bind_eq_of_ok taken _, .accepted (stands.1 found)⟩
      · exact ⟨_, _, bind_eq_of_ok taken _,
          .refused fun stood => found (stands.2 stood)⟩
  | name =>
      have read := ident?_eq (Cursor.ofOffset source place)
      rcases Cursor.exists_runAt source place inside isAlphanumeric with
        ⟨last, run, text, passed⟩
      rw [here, Cursor.next?_ofOffset, text, passed] at read
      split_ifs at read with letter
      · exact ⟨_, _, bind_eq_of_ok read _, .named letter run⟩
      · rw [Bool.not_eq_true] at letter
        exact ⟨_, _, bind_eq_of_ok read _, .unnamed letter⟩
  | number =>
      have read := numeral?_eq (Cursor.ofOffset source place)
      rcases Cursor.exists_runAt source place inside isNumeric with
        ⟨last, run, text, passed⟩
      rw [here, text, passed] at read
      split_ifs at read with empty
      all_goals rw [List.isEmpty_iff, run.extract_eq_nil_iff] at empty
      · subst empty
        exact ⟨_, _, bind_eq_of_ok read _, .uncounted run.ends⟩
      · have nonempty : place < last :=
          Nat.lt_of_le_of_ne run.forward (Ne.symm empty)
        exact ⟨_, _, bind_eq_of_ok read _, .counted nonempty run⟩

/--
The tests at an offset are decided by what stands behind the blanks there, at
the given place.
-/
structure DecidedAt (source : String) (offset place : Nat) : Prop where
  blanks : RunAt isBlank source.toList offset place
  concludes : ∀ test : TokenTest, ∃ answer last,
    test.perform (Cursor.ofOffset source offset) =
        .ok answer (Cursor.ofOffset source last) ∧
      test.Concludes source.toList place answer last
  unmade : ∀ tests after,
    Failing tests (Cursor.ofOffset source offset) after →
      (tests ≠ [] → after = Cursor.ofOffset source place) ∧
        ∀ next : TokenTest,
          next.perform after = next.perform (Cursor.ofOffset source offset)

/--
At every offset of a source, the tests are decided by what stands at the next
character that is not blank.  A test that succeeds takes a whole token there,
and tests that fail stop in front of it, as if they had not been made.
-/
theorem token_tests_are_clean
    (inside : offset ≤ source.toList.length) :
    ∃ place, DecidedAt source offset place := by
  rcases Cursor.exists_runAt source offset inside isBlank with
    ⟨place, blanks, -, skipped⟩
  have here : (Cursor.ofOffset source place).skipBlanks =
      Cursor.ofOffset source place := by
    rw [← skipped]
    exact Cursor.skipBlanks_skipBlanks _
  refine ⟨place, blanks, fun test => ?_, fun tests after failing => ?_⟩
  · rw [← perform_skipBlanks, Cursor.skipBlanks, skipped]
    exact exists_concludes blanks.inside here test
  · refine ⟨fun nonempty => ?_, failing.perform_eq⟩
    rw [← skipped]
    exact failing.skipBlanks_eq.2 nonempty

/-- A longer name, behind a blank, that begins with a keyword. -/
theorem token_tests_are_clean_longer_name :
    1 ≤ "( fnord½".toList.length ∧ DecidedAt "( fnord½" 1 2 := by
  have blanks : RunAt isBlank "( fnord½".toList 1 2 := by
    refine ⟨by decide, by decide, ?_, by decide +kernel⟩
    intro index begun before
    have only : index = 1 := Nat.le_antisymm (Nat.le_of_lt_succ before) begun
    rw [only]
    decide +kernel
  have inside : 1 ≤ "( fnord½".toList.length := by decide
  rcases token_tests_are_clean inside with ⟨place, decided⟩
  rw [← blanks.unique decided.blanks] at decided
  exact ⟨inside, decided⟩

example :
    (TokenTest.accept "fn").perform (.ofOffset "( fnord½" 1) =
      .ok (.decided false) (.ofOffset "( fnord½" 2) := by
  rfl

end

end TokenTest

end Parser

end Sprig
