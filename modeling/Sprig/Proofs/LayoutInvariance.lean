import Sprig.Program
import Sprig.Proofs.Parser.Lockstep
import Sprig.Proofs.Text.Words
import Sprig.Proofs.Typing.Placeless

/-!
# Layout is invisible

Two sources with the same words between blanks have the same outcome: the
same function but for positions, the same scope, arena and kinds, or the same
fault.  The parser reads them in step, and the checker looks at no position.

Corresponding cursors are those that have the same words ahead.  In front of
a token the first word tells the next character and the whole token, and it
loses what both cursors pass.
-/

namespace Sprig

open Sprig.Text

/-! ## Reading the same words -/

/-- The first runs without blanks of texts with the same words are the same. -/
theorem takeWhile_eq_of_words_eq
    {first second : List Char}
    (same : words first = words second)
    (solid : first.head?.any isBlank = false)
    (otherSolid : second.head?.any isBlank = false) :
    first.takeWhile (!isBlank ·) = second.takeWhile (!isBlank ·) := by
  rw [← head?_words solid, ← head?_words otherSolid, same]

/-- A text begins with the first character of its first run. -/
theorem head?_takeWhile_solid
    {text : List Char}
    (solid : text.head?.any isBlank = false) :
    (text.takeWhile (!isBlank ·)).head? = text.head? := by
  cases text with
  | nil =>
      rfl
  | cons char rest =>
      have notBlank : isBlank char = false := by
        simpa using solid
      simp [notBlank]

/-- Cursors with the same words ahead. -/
def sameWords : Lockstep where
  Beside first second := words first.rest = words second.rest
  reserve := 0
  view _ := .nowhere
  view_eq _ := rfl
  skipBlanks {first second} same _ := by
    show words (first.rest.dropWhile isBlank) =
      words (second.rest.dropWhile isBlank)
    rw [words_dropWhile, words_dropWhile, same]
  next_eq {first second} same atToken otherAtToken := by
    rw [Cursor.next?, Cursor.next?, ← head?_takeWhile_solid atToken,
      ← head?_takeWhile_solid otherAtToken,
      takeWhile_eq_of_words_eq same atToken otherAtToken]
  word_eq {first second} same atToken otherAtToken := by
    have inside : ∀ char, isAlphanumeric char = true →
        (!isBlank char) = true := by
      intro char wordly
      rw [isBlank_eq_false_of_isAlphanumeric wordly, Bool.not_false]
    rw [← takeWhile_takeWhile_of_imp inside first.rest,
      ← takeWhile_takeWhile_of_imp inside second.rest,
      takeWhile_eq_of_words_eq same atToken otherAtToken]
  arrow_iff {place other rest otherRest} same := by
    have dash : isBlank '-' = false := by
      decide
    have seen (text : List Char) :
        text.head? = some '>' ↔
          (text.takeWhile (!isBlank ·)).head? = some '>' := by
      rw [List.head?_takeWhile, Option.filter_eq_some_iff]
      exact (and_iff_left (by decide)).symm
    change words ('-' :: rest) = words ('-' :: otherRest) at same
    rw [words_cons dash, words_cons dash, List.cons.injEq, List.cons.injEq]
      at same
    rw [seen rest, seen otherRest, same.1.2]
  advance solid same _ := words_eq_of_cons solid same

/-! ## The same outcome -/

/-- Both succeed with values, or both fail with errors, that are related. -/
inductive SameOutcome
    {ε α : Type}
    (values : α → α → Prop)
    (errors : ε → ε → Prop) :
    Except ε α → Except ε α → Prop where
  | ok
      {value other : α}
      (same : values value other) :
      SameOutcome values errors (.ok value) (.ok other)
  | error
      {error other : ε}
      (same : errors error other) :
      SameOutcome values errors (.error error) (.error other)

namespace SameOutcome

variable {ε α κ γ : Type}
variable {outcome other : Except ε α}

/-- Outcomes that look the same are the same as far as one looks. -/
theorem of_eq
    {see : α → γ}
    {blame : ε → κ}
    (same :
      (outcome.map see).mapError blame = (other.map see).mapError blame) :
    SameOutcome (fun value otherValue => see value = see otherValue)
      (fun error otherError => blame error = blame otherError)
      outcome other := by
  cases outcome with
  | ok value =>
      cases other with
      | ok otherValue =>
          exact .ok (Except.ok.inj same)
      | error otherError =>
          cases same
  | error error =>
      cases other with
      | ok otherValue =>
          cases same
      | error otherError =>
          exact .error (Except.error.inj same)

theorem imp
    {values moreValues : α → α → Prop}
    {errors moreErrors : ε → ε → Prop}
    (same : SameOutcome values errors outcome other)
    (forValues :
      ∀ value otherValue, values value otherValue →
        moreValues value otherValue)
    (forErrors :
      ∀ error otherError, errors error otherError →
        moreErrors error otherError) :
    SameOutcome moreValues moreErrors outcome other := by
  cases same with
  | ok same =>
      exact .ok (forValues _ _ same)
  | error same =>
      exact .error (forErrors _ _ same)

end SameOutcome

/-- Diagnostics of one phase with one fault, wherever it is. -/
def Diagnostic.SameFault : Diagnostic → Diagnostic → Prop
  | .malformed error, .malformed other => error.fault = other.fault
  | .illTyped error, .illTyped other => error.fault = other.fault
  | .malformed _, .illTyped _ => False
  | .illTyped _, .malformed _ => False

/-- The same chain of names and slots, the same arena and the same kinds. -/
structure Checked.Alike (first second : Checked) : Prop where
  scope : first.scope.map Declared.slot = second.scope.map Declared.slot
  arena : first.arena = second.arena
  kinds : first.kinds = second.kinds

/-- Sources that are read and checked with the same outcome. -/
structure Alike (first second : String) : Prop where
  parse :
    SameOutcome (fun function other => function.unplaced = other.unplaced)
      (fun error other => error.fault = other.fault)
      (parse first) (parse second)
  check (allowUnresolved : Bool) :
    SameOutcome Checked.Alike Diagnostic.SameFault
      (check first allowUnresolved) (check second allowUnresolved)

theorem parse_alike
    {first second : String}
    (same : words first.toList = words second.toList) :
    SameOutcome (fun function other => function.unplaced = other.unplaced)
      (fun error other => error.fault = other.fault)
      (parse first) (parse second) := by
  have agreed : sameWords.Agree Function.unplaced
      (Parser.function (Cursor.start first))
      (Parser.function (Cursor.start second)) :=
    Lockstep.keeps_function.agree same (Nat.zero_le _)
  rw [parse, parse]
  generalize Parser.function (Cursor.start first) = outcome at agreed
  generalize Parser.function (Cursor.start second) = other at agreed
  cases agreed with
  | ok same beside =>
      exact .ok same
  | error fault view =>
      exact .error fault

theorem Checked.kinds_unplaced (checked : Checked) :
    checked.unplaced.kinds = checked.kinds := by
  rw [kinds, kinds, unplaced, Scope.visible_map, List.map_map]
  rfl

theorem Checked.alike_of_unplaced_eq
    {first second : Checked}
    (same : first.unplaced = second.unplaced) :
    first.Alike second where
  scope := by
    have slots (scope : Scope Declared) :
        (scope.map Declared.unplaced).map Declared.slot =
          scope.map Declared.slot :=
      Scope.map_map Declared.unplaced Declared.slot scope
    have scopes : first.scope.map Declared.unplaced =
        second.scope.map Declared.unplaced :=
      congrArg Checked.scope same
    rw [← slots first.scope, ← slots second.scope, scopes]
  arena := by
    have arenas : first.unplaced.arena = second.unplaced.arena :=
      congrArg Checked.arena same
    exact arenas
  kinds := by
    rw [← first.kinds_unplaced, ← second.kinds_unplaced, same]

/-- Functions that differ in their positions alone are checked alike. -/
theorem check_alike
    {first second : Function}
    (same : first.unplaced = second.unplaced)
    (allowUnresolved : Bool) :
    SameOutcome Checked.Alike (fun error other => error.fault = other.fault)
      (first.check allowUnresolved) (second.check allowUnresolved) := by
  have outcome := check_unplaced first allowUnresolved
  rw [same, check_unplaced] at outcome
  refine (SameOutcome.of_eq outcome.symm).imp ?_ ?_
  · intro value other
    exact Checked.alike_of_unplaced_eq
  · intro error other blamed
    have faults : error.unplaced.fault = other.unplaced.fault :=
      congrArg TypeError.fault blamed
    exact faults

/-- The same words are read and checked alike. -/
theorem alike_of_words_eq
    {first second : String}
    (same : words first.toList = words second.toList) :
    Alike first second := by
  have parsed := parse_alike same
  refine ⟨parsed, fun allowUnresolved => ?_⟩
  rw [check, check]
  generalize parse first = outcome at parsed
  generalize parse second = other at parsed
  cases parsed with
  | error fault =>
      exact .error fault
  | @ok function otherFunction unplaced =>
      have checked := check_alike unplaced allowUnresolved
      dsimp only
      generalize function.check allowUnresolved = outcome at checked
      generalize otherFunction.check allowUnresolved = other at checked
      cases checked with
      | ok alike =>
          exact .ok alike
      | error fault =>
          exact .error fault

/--
Sources with the same words are read and checked alike.  Other blanks in the
same places leave the words as they are, and so do blanks around a source.
-/
theorem layout_invariance :
    (∀ first second : String,
      words first.toList = words second.toList → Alike first second) ∧
    (∀ first second : String,
      List.Forall₂
          (fun char other => char = other ∨ isBlank char ∧ isBlank other)
          first.toList second.toList →
        Alike first second) ∧
    ∀ (source : String) (before behind : List Char),
      (∀ char ∈ before, isBlank char) → (∀ char ∈ behind, isBlank char) →
        Alike source
          (String.ofList (before ++ source.toList ++ behind)) := by
  refine ⟨?_, ?_, ?_⟩
  · intro first second same
    exact alike_of_words_eq same
  · intro first second interchanged
    exact alike_of_words_eq (words_eq_of_interchanged interchanged)
  · intro source before behind blankBefore blankBehind
    apply alike_of_words_eq
    rw [String.toList_ofList, words_surround blankBefore blankBehind]

/-- Line feeds, an ideographic space and a tab are as good as spaces. -/
theorem layout_invariance_ideographic :
    (words "fn f() \x7b x := 1 y\x7d".toList =
        words "fn\n f()\u3000\x7b x\t:= 1 y\x7d\n".toList ∧
      Alike "fn f() \x7b x := 1 y\x7d"
        "fn\n f()\u3000\x7b x\t:= 1 y\x7d\n") ∧
    (List.Forall₂
        (fun char other => char = other ∨ isBlank char ∧ isBlank other)
        "fn f(a: int) \x7b\x7d".toList
        "fn\u3000f(a:\tint)\n\x7b\x7d".toList ∧
      Alike "fn f(a: int) \x7b\x7d" "fn\u3000f(a:\tint)\n\x7b\x7d") ∧
    (∀ char ∈ ['\n', ' '], isBlank char) ∧
      Alike "fn f() \x7b\x7d"
        (String.ofList
          (['\n', ' '] ++ "fn f() \x7b\x7d".toList ++ ['\n', ' '])) := by
  have same : words "fn f() \x7b x := 1 y\x7d".toList =
      words "fn\n f()\u3000\x7b x\t:= 1 y\x7d\n".toList := by
    decide +kernel
  have interchanged : List.Forall₂
      (fun char other => char = other ∨ isBlank char ∧ isBlank other)
      "fn f(a: int) \x7b\x7d".toList
      "fn\u3000f(a:\tint)\n\x7b\x7d".toList := by
    decide +kernel
  have blank : ∀ char ∈ ['\n', ' '], isBlank char :=
    List.all_eq_true.1 rfl
  exact ⟨⟨same, layout_invariance.1 _ _ same⟩,
    ⟨interchanged, layout_invariance.2.1 _ _ interchanged⟩,
    blank, layout_invariance.2.2 _ _ _ blank blank⟩

end Sprig
