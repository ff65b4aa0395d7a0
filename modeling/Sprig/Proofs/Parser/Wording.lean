import Sprig.Proofs.Parser.ErrorOffset
import Sprig.Proofs.Parser.Trait
import Sprig.Proofs.Text.Lines

/-!
# The wording of a syntax error

An error that says what is missing says one of the `expectations` of the
grammar, and quotes what stands at its offset: the end of the text, a word or
a single character that is not blank.  Neither part holds a line break.
-/

namespace Sprig

open Sprig.Text

namespace Parser

/-- What is said to be missing is something that the grammar expects. -/
def Worded (error : SyntaxError) : Prop :=
  ∀ what found, error.fault = .expected what found → what ∈ expectations

/-- The errors of all readers are worded by the grammar. -/
def wording : Trait where
  Holds := FailsOnly Worded
  holds_pure := .pure
  holds_bind := .bind
  holds_get := .never fun _ _ _ => nofun
  holds_skipBlanks := .never fun _ _ _ => nofun
  holds_consume := by
    rintro ⟨location, rest⟩ error after fails
    cases rest with
    | nil =>
        cases fails
        exact nofun
    | cons char rest =>
        cases fails
  holds_run := fun _ => .never fun _ _ _ => nofun
  holds_failExpecting := by
    rintro α what listed cursor error after fails _ _ isFault
    cases fails
    cases isFault
    exact listed
  holds_callStatement := fun _ => .throw nofun
  holds_stalled := by
    rintro α step cursor error after fails
    cases fails
    exact nofun

end Parser

/-- What stands in front of a place where no blank comes next is one line. -/
theorem StandsAt.oneLine
    {text : List Char}
    {offset : Nat}
    {found : Lookahead}
    (stands : StandsAt text offset found)
    (notBlank : (text.drop offset).head?.any isBlank = false) :
    OneLine found.describe := by
  have quote : OneLine "'" := by decide
  cases stands with
  | endOfInput ended =>
      decide
  | word run rest next nonempty inside stops =>
      refine (quote.append (oneLine_of_solid fun char listed => ?_)).append quote
      rw [String.toList_ofList] at listed
      exact isBlank_eq_false_of_isAlphanumeric (inside char listed)
  | mark char rest next notWord =>
      refine (quote.append (oneLine_of_solid fun other listed => ?_)).append
        quote
      rw [String.toList_ofList, List.mem_singleton] at listed
      rw [next] at notBlank
      rw [listed]
      exact notBlank

/-- A call begins with its first name. -/
theorem CallStandsAt.solidAt
    {text : List Char}
    {offset paren : Nat}
    (stands : CallStandsAt text offset paren) :
    SolidAt text offset := by
  rcases stands with ⟨names, layout, rest, areNames, tokens, begins, next, -⟩
  have solid : ∀ token ∈ layout.tokens, token.Solid := by
    rw [tokens]
    exact AllSolid.spellNames areNames.2
  have covers := layout.covers solid
  rcases List.head?_eq_some_iff.1 begins with ⟨others, offsets⟩
  cases listed : layout.tokens with
  | nil =>
      have lengths := covers.length_eq
      rw [offsets, listed] at lengths
      cases lengths
  | cons first later =>
      have placed : (0, first) ∈ layout.offsets.zip layout.tokens := by
        rw [offsets, listed]
        exact .head _
      rcases covers.solidAt placed with ⟨char, here, notBlank⟩
      rw [← List.head?_eq_getElem?] at here
      rcases List.head?_eq_some_iff.1 here with ⟨more, shape⟩
      rw [shape] at next
      exact solidAt_of_drop next notBlank

variable {source : String}
variable {error : SyntaxError}

/-- What is quoted begins with a character that is not blank. -/
theorem UnexpectedAt.solidAt
    {what quoted : String}
    {offset : Nat}
    (unexpected : UnexpectedAt source error what (.text quoted) offset) :
    SolidAt source.toList offset := by
  have notBlank := unexpected.notBlank
  have begins : ∃ char rest, source.toList.drop offset = char :: rest := by
    cases unexpected.stands with
    | word run rest next nonempty inside stops =>
        rcases List.exists_cons_of_ne_nil nonempty with ⟨char, others, rfl⟩
        exact ⟨char, others ++ rest, next⟩
    | mark char rest next notWord =>
        exact ⟨char, rest, next⟩
  rcases begins with ⟨char, rest, next⟩
  rw [next] at notBlank
  exact solidAt_of_drop next notBlank

/-- A misfit, worded by the grammar, or a call. -/
theorem misfit_or_call
    (failed : parse source = .error error) :
    (∃ what ∈ Parser.expectations, ∃ found offset,
      UnexpectedAt source error what found offset) ∨
    ∃ offset paren, CalledAt source error offset paren := by
  rcases function_fails_of_parse failed with ⟨after, fails⟩
  rcases Parser.function_fails fails with
    ⟨misfit, tree, wellFormed, part⟩ | call
  · rcases exists_completion wellFormed part with ⟨behind, text, place, -⟩
    rcases unexpectedAt_of_misfit misfit text place with ⟨what, unexpected⟩
    have worded := Parser.wording.holds_function _ _ _ fails
    exact .inl ⟨what, worded _ _ unexpected.fault, _, _, unexpected⟩
  · rcases calledAt_of_callIn call with ⟨offset, paren, called, -⟩
    exact .inr ⟨offset, paren, called⟩

end Sprig
