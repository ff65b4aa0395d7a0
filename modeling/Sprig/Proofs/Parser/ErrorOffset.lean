import Sprig.Proofs.Parser.Viability

/-!
# Where an error is and what stands before it

An error of a source is charged to an offset: the token that stands there does
not fit, and the text before it can be completed to a source that parses.  If
the fault is a call, the offset is the beginning of a statement, and a closing
brace alone completes the text before it.

The parser has passed the text before the offset token by token.  Another text
that goes on with the missing tokens is read in the same way, as long as it
does not begin with a character that would continue the last token; a space
or a brace does not.
-/

namespace Sprig

open Sprig.Text

/-! ## Completing a text -/

/-- Tokens with a space in front of each. -/
def spaced (tokens : List Token) : List Char :=
  tokens.flatMap fun token => ' ' :: token.text

theorem head?_spaced (tokens : List Token) :
    (spaced tokens).head?.any isAlphanumeric = false := by
  cases tokens with
  | nil =>
      rfl
  | cons token tokens =>
      rfl

theorem spelled_spaced
    {tokens : List Token}
    (solid : ∀ token ∈ tokens, token.Solid) :
    Spelled tokens (spaced tokens) := by
  induction tokens with
  | nil =>
      exact .done [] (List.forall_mem_nil _)
  | cons token tokens ih =>
      rcases List.forall_mem_cons.1 solid with ⟨tokenSolid, others⟩
      have blank : ∀ char ∈ [' '], isBlank char = true :=
        List.forall_mem_singleton.2 rfl
      exact .token [' '] token blank tokenSolid
        (token.stops_of_head? (head?_spaced tokens)) (ih others)

theorem Spelled.blank
    {tokens : List Token}
    {text : List Char}
    {char : Char}
    (spelled : Spelled tokens text)
    (blank : isBlank char = true) :
    Spelled tokens (char :: text) := by
  cases spelled with
  | done blanks allBlank =>
      exact .done _ (List.forall_mem_cons.2 ⟨blank, allBlank⟩)
  | token blanks token allBlank solid stops spelled =>
      exact .token (char :: blanks) token
        (List.forall_mem_cons.2 ⟨blank, allBlank⟩) solid stops spelled

/-- What stops a token is its next character, if there is one. -/
theorem Token.Stops.append
    {token : Token}
    {text rest more : List Char}
    (stops : token.Stops (text ++ rest))
    (other : more.head?.any isAlphanumeric = false) :
    token.Stops (text ++ more) := by
  cases text with
  | nil =>
      exact token.stops_of_head? other
  | cons char text =>
      exact stops

/-- A text that has been passed spells its tokens in front of other tokens. -/
theorem Reads.spelled_append
    {cursor after : Cursor}
    {lexemes : List Lexeme}
    {tokens : List Token}
    {more : List Char}
    (reads : Reads cursor lexemes after)
    (solid : ∀ token ∈ lexemes.map Lexeme.token, token.Solid)
    (spelled : Spelled tokens more)
    (other : more.head?.any isAlphanumeric = false) :
    ∃ text,
      cursor.rest = text ++ after.rest ∧
      after.location = cursor.location.advanceAll text ∧
      Spelled (lexemes.map Lexeme.token ++ tokens) (text ++ more) := by
  induction reads with
  | done cursor =>
      exact ⟨[], rfl, rfl, spelled⟩
  | blank blank reads ih =>
      rcases ih solid with ⟨text, rest, place, spelled⟩
      refine ⟨_ :: text, ?_, place, spelled.blank blank⟩
      exact congrArg (List.cons _) rest
  | @token _ ahead _ after lexeme nodes stops reads ih =>
      rw [List.map_cons, List.forall_mem_cons] at solid
      rcases ih solid.2 with ⟨text, rest, place, spelled⟩
      have split : ahead = text ++ after.rest := rest
      refine ⟨lexeme.token.text ++ text, ?_, ?_, ?_⟩
      · rw [List.append_assoc, ← split]
      · rw [Location.advanceAll_append]
        exact place
      · -- The last token that was passed is stopped by what now follows it,
        -- whatever stood there before.
        rw [split] at stops
        have whole := Spelled.token [] lexeme.token (List.forall_mem_nil _)
          solid.1 (stops.append other) spelled
        rw [List.append_assoc]
        exact whole

/-- A text that is a function. -/
def Parses (text : List Char) : Prop :=
  ∃ function, parse (String.ofList text) = .ok function

/-- A text that spells the tokens of a well-formed function parses. -/
theorem parses_of_spelled
    {tree : Function}
    {text : List Char}
    (wellFormed : tree.WellFormed)
    (spelled : Spelled tree.tokens text) :
    Parses text := by
  rw [← List.append_nil tree.tokens, ← String.toList_ofList (l := text)]
    at spelled
  rcases
      Parser.function_finds wellFormed
        (Cursor.start (String.ofList text)) spelled with
    ⟨function, after, read, -⟩
  exact ⟨function, by rw [parse, read]⟩

/-! ## What stands at an offset -/

/-- What a message quotes of a text at an offset. -/
inductive StandsAt (text : List Char) (offset : Nat) : Lookahead → Prop where
  | endOfInput
      (ended : offset = text.length) :
      StandsAt text offset .endOfInput
  | word
      (run rest : List Char)
      (next : text.drop offset = run ++ rest)
      (nonempty : run ≠ [])
      (inside : ∀ char ∈ run, isAlphanumeric char = true)
      (stops : rest.head?.any isAlphanumeric = false) :
      StandsAt text offset (.text (String.ofList run))
  | mark
      (char : Char) (rest : List Char)
      (next : text.drop offset = char :: rest)
      (notWord : isAlphanumeric char = false) :
      StandsAt text offset (.text (String.ofList [char]))

/-- What a cursor sees is what stands at its offset. -/
theorem standsAt_lookahead
    (cursor : Cursor)
    (behind : List Char) :
    StandsAt (behind ++ cursor.rest) behind.length cursor.lookahead := by
  rcases cursor with ⟨location, rest⟩
  cases rest with
  | nil =>
      exact .endOfInput (by simp)
  | cons char rest =>
      by_cases isWord : isAlphanumeric char = true
      · simp only [Cursor.lookahead, isWord, ↓reduceIte]
        refine .word _ (rest.dropWhile isAlphanumeric) ?_
          (List.cons_ne_nil _ _) ?_ (head?_dropWhile _ _)
        · rw [List.drop_left, List.cons_append, List.takeWhile_append_dropWhile]
        · refine List.forall_mem_cons.2 ⟨isWord, ?_⟩
          exact List.all_eq_true.1 List.all_takeWhile
      · simp only [Cursor.lookahead, isWord, Bool.false_eq_true, ↓reduceIte]
        rw [Bool.not_eq_true] at isWord
        exact .mark char rest List.drop_left isWord

/-- A list of names at an offset, and a parenthesis behind it. -/
def CallStandsAt (text : List Char) (offset paren : Nat) : Prop :=
  ∃ (names : List String) (layout : Layout) (rest : List Char),
    IsNameList names ∧
      layout.tokens = (spellNames names).map Lexeme.token ∧
      layout.offsets.head? = some 0 ∧
      text.drop offset = layout.text ++ '(' :: rest ∧
      paren = offset + layout.text.length

/-- A call that begins at a cursor stands at its offset. -/
theorem callStandsAt_of_callAt
    {cursor after : Cursor}
    (atToken : cursor.AtToken)
    (call : Parser.CallAt cursor after)
    (behind : List Char) :
    ∃ paren, CallStandsAt (behind ++ cursor.rest) behind.length paren ∧
      behind.length + cursor.rest.length = paren + after.rest.length := by
  rcases call with ⟨names, isNames, reads, next⟩
  rcases reads.exists_layout_append with ⟨layout, text, tokens, -⟩
  rcases List.head?_eq_some_iff.1 next with ⟨rest, paren⟩
  rcases List.exists_cons_of_ne_nil isNames.1 with ⟨first, others, list⟩
  have nonempty : layout.tokens ≠ [] := by
    rw [tokens, list, map_token_spellNames]
    exact List.cons_ne_nil _ _
  have notBlank : layout.text.head?.any isBlank = false := by
    rw [Cursor.AtToken, ← text] at atToken
    cases first : layout.text with
    | nil =>
        rfl
    | cons char others =>
        rw [first] at atToken
        exact atToken
  have begins := Layout.head?_offsets nonempty notBlank
  refine ⟨_, ⟨names, layout, rest, isNames, tokens, begins, ?_, rfl⟩, ?_⟩
  · rw [List.drop_left, ← text, paren]
  · rw [← text, List.length_append, Nat.add_assoc]

/-! ## Errors -/

/-- The token at an offset of a source is not what is needed there. -/
structure UnexpectedAt
    (source : String)
    (error : SyntaxError)
    (what : String)
    (found : Lookahead)
    (offset : Nat) : Prop where
  fault : error.fault = .expected what found
  message : error.fault.message =
    "expected " ++ what ++ ", got " ++ found.describe
  inside : offset ≤ source.toList.length
  pos : error.pos = posAt source.toList offset
  notBlank : (source.toList.drop offset).head?.any isBlank = false
  stands : StandsAt source.toList offset found

/-- A statement at an offset of a source begins like a call. -/
structure CalledAt
    (source : String)
    (error : SyntaxError)
    (offset paren : Nat) : Prop where
  fault : error.fault = .callStatement
  pos : error.pos = posAt source.toList offset
  stands : CallStandsAt source.toList offset paren

/-- A failure of the parser, with the cursor at which it stopped. -/
theorem function_fails_of_parse
    {source : String}
    {error : SyntaxError}
    (failed : parse source = .error error) :
    ∃ after,
      Parser.function (Cursor.start source) = .error error after := by
  rw [parse] at failed
  split at failed
  next =>
    cases failed
  next found after read =>
    cases failed
    exact ⟨after, read⟩

variable {source : String}
variable {error : SyntaxError}
variable {after : Cursor}

/-- A misfit is charged to the end of the text that has been passed. -/
theorem unexpectedAt_of_misfit
    {behind : List Char}
    (misfit : Misfit error after)
    (text : source.toList = behind ++ after.rest)
    (place : after.location = Location.start.advanceAll behind) :
    ∃ what, UnexpectedAt source error what after.lookahead behind.length := by
  rcases misfit.expected with ⟨what, rfl⟩
  refine ⟨what, rfl, rfl, ?_, ?_, ?_, ?_⟩
  · rw [text, List.length_append]
    exact Nat.le_add_right _ _
  · rw [posAt, text, List.take_left, ← pos_advanceAll_start, ← place]
    rfl
  · rw [text, List.drop_left]
    exact misfit.atToken
  · rw [text]
    exact standsAt_lookahead after behind

/-- The text in front of a misfit can be completed. -/
theorem exists_completion
    {tree : Function}
    (wellFormed : tree.WellFormed)
    (part : ReadsPart (Cursor.start source) tree.tokens after) :
    ∃ behind,
      source.toList = behind ++ after.rest ∧
      after.location = Location.start.advanceAll behind ∧
      ∃ continuation, Parses (behind ++ continuation) := by
  rcases part with ⟨lexemes, missing, reads, tokens⟩
  have solid := wellFormed.solid
  rw [← tokens, List.forall_mem_append] at solid
  rcases
      reads.spelled_append solid.1 (spelled_spaced solid.2)
        (head?_spaced missing) with
    ⟨behind, text, place, spelled⟩
  rw [tokens] at spelled
  exact ⟨behind, text, place, spaced missing,
    parses_of_spelled wellFormed spelled⟩

/-- The body can be closed in front of a call. -/
theorem calledAt_of_callIn
    (call : Parser.CallIn (Cursor.start source) error after) :
    ∃ offset paren,
      CalledAt source error offset paren ∧
      source.toList.length = paren + after.rest.length ∧
      Parses (source.toList.take offset ++ ['\x7d']) := by
  rcases call with
    ⟨tree, lexemes, middle, wellFormed, reads, tokens, atToken, rfl, call⟩
  have solid := wellFormed.solid
  rw [← tokens, List.forall_mem_append] at solid
  have brace : Spelled [.symbol "\x7d"] ['\x7d'] :=
    .token [] (.symbol "\x7d") (List.forall_mem_nil _) (by decide) trivial
      (.done [] (List.forall_mem_nil _))
  rcases reads.spelled_append solid.1 brace rfl with
    ⟨behind, text, place, spelled⟩
  rw [tokens] at spelled
  have source_eq : source.toList = behind ++ middle.rest := text
  have place_eq : middle.location = Location.start.advanceAll behind := place
  rcases callStandsAt_of_callAt atToken call behind with
    ⟨paren, stands, lengths⟩
  rw [← source_eq] at stands
  refine ⟨behind.length, paren, ⟨rfl, ?_, stands⟩, ?_, ?_⟩
  · rw [posAt, source_eq, List.take_left, ← pos_advanceAll_start, ← place_eq]
    rfl
  · rw [source_eq, List.length_append, lengths]
  · rw [source_eq, List.take_left]
    exact parses_of_spelled wellFormed spelled

/--
An error of a source is charged to a token that does not fit, up to which the
source can be completed, or to a statement that begins like a call, in front
of which the body could have been closed.
-/
theorem error_follows_viable_prefix
    (failed : parse source = .error error) :
    (∃ what found offset,
      UnexpectedAt source error what found offset ∧
        ∃ continuation,
          Parses (source.toList.take offset ++ continuation)) ∨
    ∃ offset paren,
      CalledAt source error offset paren ∧
        Parses (source.toList.take offset ++ ['\x7d']) := by
  rcases function_fails_of_parse failed with ⟨after, fails⟩
  rcases Parser.function_fails fails with
    ⟨misfit, tree, wellFormed, part⟩ | call
  · rcases exists_completion wellFormed part with
      ⟨behind, text, place, continuation, parses⟩
    rcases unexpectedAt_of_misfit misfit text place with ⟨what, unexpected⟩
    refine .inl ⟨what, _, _, unexpected, continuation, ?_⟩
    rw [text, List.take_left]
    exact parses
  · rcases calledAt_of_callIn call with ⟨offset, paren, called, -, closed⟩
    exact .inr ⟨offset, paren, called, closed⟩

/--
The end of a word decides whether it is the type or only begins it, and a
name in front of a parenthesis is charged to its statement.
-/
theorem error_follows_viable_prefix_misfit_and_call :
    (parse "fn f(a: in-t)" =
        .error ⟨.expected "')'" (.text "-"), ⟨1, 11⟩⟩ ∧
      ((∃ what found offset,
        UnexpectedAt "fn f(a: in-t)"
            ⟨.expected "')'" (.text "-"), ⟨1, 11⟩⟩ what found offset ∧
          ∃ continuation,
            Parses ("fn f(a: in-t)".toList.take offset ++ continuation)) ∨
      ∃ offset paren,
        CalledAt "fn f(a: in-t)"
            ⟨.expected "')'" (.text "-"), ⟨1, 11⟩⟩ offset paren ∧
          Parses ("fn f(a: in-t)".toList.take offset ++ ['\x7d']))) ∧
    (parse "fn f()\x7bx=1y,z (2)" = .error ⟨.callStatement, ⟨1, 11⟩⟩ ∧
      ((∃ what found offset,
        UnexpectedAt "fn f()\x7bx=1y,z (2)"
            ⟨.callStatement, ⟨1, 11⟩⟩ what found offset ∧
          ∃ continuation,
            Parses ("fn f()\x7bx=1y,z (2)".toList.take offset ++
              continuation)) ∨
      ∃ offset paren,
        CalledAt "fn f()\x7bx=1y,z (2)"
            ⟨.callStatement, ⟨1, 11⟩⟩ offset paren ∧
          Parses ("fn f()\x7bx=1y,z (2)".toList.take offset ++
            ['\x7d']))) := by
  have misfit : parse "fn f(a: in-t)" =
      .error ⟨.expected "')'" (.text "-"), ⟨1, 11⟩⟩ := by
    decide +kernel
  have call : parse "fn f()\x7bx=1y,z (2)" =
      .error ⟨.callStatement, ⟨1, 11⟩⟩ := by
    decide +kernel
  exact ⟨⟨misfit, error_follows_viable_prefix misfit⟩,
    ⟨call, error_follows_viable_prefix call⟩⟩

end Sprig
