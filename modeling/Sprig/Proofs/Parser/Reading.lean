import Sprig.Parser.Token
import Sprig.Proofs.Outcome
import Sprig.Proofs.Syntax.Layout
import Sprig.Proofs.Text.Runs

/-!
# What a cursor passes

`Reads cursor lexemes after` says that the way from one cursor to another
leads over blanks and over the tokens of the lexemes, in order, that each
token ends where the text makes it end, and that the nodes of each lexeme are
positioned where its token begins.  Ways can be put together, and further nodes
can be added to the token at which a way begins.

A way that reaches the end of a text is a layout of the text.  The token
readers of the parser are described in terms of ways here, each by a theorem
about the result that it gives.
-/

namespace Sprig

open Sprig.Text

/-! ## Cursors in front of tokens -/

namespace Cursor

/-- No blank comes next. -/
def AtToken (cursor : Cursor) : Prop :=
  cursor.rest.head?.any isBlank = false

theorem skipBlanks_of_blank
    {char : Char}
    (blank : isBlank char = true)
    (location : Location)
    (rest : List Char) :
    skipBlanks ⟨location, char :: rest⟩ =
      skipBlanks ⟨location.advance char, rest⟩ := by
  simp [skipBlanks, dropWhile, blank]

theorem skipBlanks_of_atToken
    {cursor : Cursor}
    (atToken : cursor.AtToken) :
    cursor.skipBlanks = cursor := by
  rcases cursor with ⟨location, rest⟩
  cases rest with
  | nil =>
      rfl
  | cons char rest =>
      have solid : ¬ isBlank char = true := by
        simpa [AtToken] using atToken
      simp [skipBlanks, dropWhile, solid]

theorem atToken_skipBlanks (cursor : Cursor) :
    cursor.skipBlanks.AtToken :=
  head?_dropWhile isBlank cursor.rest

/-- Where no character of a class comes next, none is passed. -/
theorem dropWhile_eq_self
    {cursor : Cursor}
    {class? : Char → Bool}
    (empty : cursor.rest.takeWhile class? = []) :
    cursor.dropWhile class? = cursor ∧
      cursor.rest.head?.any class? = false := by
  rcases cursor with ⟨location, rest⟩
  cases rest with
  | nil =>
      exact ⟨rfl, rfl⟩
  | cons char rest =>
      have other : ¬ class? char = true := by
        intro inside
        simp [inside] at empty
      simp [dropWhile, other]

@[simp]
theorem skipBlanks_skipBlanks (cursor : Cursor) :
    cursor.skipBlanks.skipBlanks = cursor.skipBlanks :=
  skipBlanks_of_atToken cursor.atToken_skipBlanks

/-- A symbol of one character that is no letter is the next character. -/
theorem atSymbol_char
    {cursor : Cursor}
    {char : Char}
    (notLetter : isLetter char = false) :
    cursor.atSymbol [char] = true ↔ cursor.rest.head? = some char := by
  have notWord : isWordSymbol [char] = false := by
    simp [isWordSymbol, notLetter]
  rw [atSymbol, notWord]
  cases cursor.rest with
  | nil =>
      simp
  | cons next rest =>
      simp only [List.isPrefixOf, Bool.false_and, Bool.not_false,
        Bool.and_true, beq_iff_eq, List.head?_cons, Option.some.injEq]
      exact eq_comm

end Cursor

/-! ## Ways -/

/-- A way over blanks and tokens. -/
inductive Reads : Cursor → List Lexeme → Cursor → Prop where
  | done (cursor : Cursor) :
      Reads cursor [] cursor
  | blank
      {location : Location} {char : Char} {rest : List Char}
      {lexemes : List Lexeme} {after : Cursor}
      (blank : isBlank char = true)
      (reads : Reads ⟨location.advance char, rest⟩ lexemes after) :
      Reads ⟨location, char :: rest⟩ lexemes after
  | token
      {location : Location} {rest : List Char}
      {lexemes : List Lexeme} {after : Cursor}
      (lexeme : Lexeme)
      (nodes : ∀ pos ∈ lexeme.nodes, pos = location.pos)
      (stops : lexeme.token.Stops rest)
      (reads :
        Reads ⟨location.advanceAll lexeme.token.text, rest⟩ lexemes after) :
      Reads ⟨location, lexeme.token.text ++ rest⟩ (lexeme :: lexemes) after

namespace Reads

/-- Two ways, the second of which begins where the first ends. -/
theorem append
    {cursor middle after : Cursor}
    {first second : List Lexeme}
    (begins : Reads cursor first middle)
    (ends : Reads middle second after) :
    Reads cursor (first ++ second) after := by
  induction begins with
  | done cursor =>
      exact ends
  | blank blank _ ih =>
      exact .blank blank (ih ends)
  | token lexeme nodes stops _ ih =>
      exact .token lexeme nodes stops (ih ends)

/-- A single token that comes next. -/
theorem single
    {cursor : Cursor}
    (token : Token)
    {rest : List Char}
    (next : cursor.rest = token.text ++ rest)
    (stops : token.Stops rest) :
    Reads cursor [token.bare]
      ⟨cursor.location.advanceAll token.text, rest⟩ := by
  rcases cursor with ⟨location, text⟩
  subst next
  exact .token token.bare (by simp [Token.bare]) stops (.done _)

/-- A token that is the longest run of a class of characters. -/
theorem run
    {cursor : Cursor}
    (token : Token)
    (class? : Char → Bool)
    (text : token.text = cursor.rest.takeWhile class?)
    (stops : token.Stops (cursor.rest.dropWhile class?)) :
    Reads cursor [token.bare] (cursor.dropWhile class?) := by
  have next : cursor.rest = token.text ++ cursor.rest.dropWhile class? := by
    rw [text, List.takeWhile_append_dropWhile]
  have passed := single token next stops
  rw [text] at passed
  exact passed

/-- Blanks are passed without a token. -/
theorem skipBlanks (cursor : Cursor) :
    Reads cursor [] cursor.skipBlanks := by
  rcases cursor with ⟨location, rest⟩
  induction rest generalizing location with
  | nil =>
      exact .done _
  | cons char rest ih =>
      by_cases blank : isBlank char = true
      · rw [Cursor.skipBlanks_of_blank blank]
        exact .blank blank (ih (location.advance char))
      · have atToken : Cursor.AtToken ⟨location, char :: rest⟩ := by
          simpa [Cursor.AtToken] using blank
        rw [Cursor.skipBlanks_of_atToken atToken]
        exact .done _

/-- The way after blanks is a way before them. -/
theorem of_skipBlanks
    {cursor after : Cursor}
    {lexemes : List Lexeme}
    (reads : Reads cursor.skipBlanks lexemes after) :
    Reads cursor lexemes after :=
  (skipBlanks cursor).append reads

/-- Nodes are added to the token at which a way begins. -/
theorem beginning
    {cursor after : Cursor}
    {lexemes : List Lexeme}
    (reads : Reads cursor lexemes after)
    (nodes : List Pos)
    (atToken : cursor.AtToken)
    (here : ∀ pos ∈ nodes, pos = cursor.pos) :
    Reads cursor (Sprig.beginning nodes lexemes) after := by
  cases reads with
  | done cursor =>
      exact .done _
  | blank blank reads =>
      simp [Cursor.AtToken, blank] at atToken
  | @token location _ _ _ lexeme claimed stops reads =>
      have all : ∀ pos ∈ nodes ++ lexeme.nodes, pos = location.pos := by
        intro pos member
        rcases List.mem_append.1 member with added | old
        · exact here pos added
        · exact claimed pos old
      exact .token ⟨lexeme.token, nodes ++ lexeme.nodes⟩ all stops reads

/-- A way that begins at a token has that token in front of it. -/
theorem rest_eq_of_atToken
    {cursor after : Cursor}
    {lexeme : Lexeme}
    {lexemes : List Lexeme}
    (reads : Reads cursor (lexeme :: lexemes) after)
    (atToken : cursor.AtToken) :
    ∃ rest, cursor.rest = lexeme.token.text ++ rest := by
  cases reads with
  | blank blank reads =>
      simp [Cursor.AtToken, blank] at atToken
  | token _ nodes stops reads =>
      exact ⟨_, rfl⟩

/-- The characters of the tokens are no longer ahead. -/
theorem length_le
    {cursor after : Cursor}
    {lexemes : List Lexeme}
    (reads : Reads cursor lexemes after) :
    (lexemes.flatMap fun lexeme => lexeme.token.text).length +
        after.rest.length ≤
      cursor.rest.length := by
  induction reads with
  | done cursor =>
      simp
  | blank blank _ ih =>
      simp only [List.length_cons] at ih ⊢
      omega
  | token lexeme nodes stops _ ih =>
      simp only [List.flatMap_cons, List.length_append] at ih ⊢
      omega

/-- What a way passes is a layout of its tokens. -/
theorem exists_layout_append
    {cursor after : Cursor}
    {lexemes : List Lexeme}
    (reads : Reads cursor lexemes after) :
    ∃ layout : Layout,
      layout.text ++ after.rest = cursor.rest ∧
      layout.tokens = lexemes.map Lexeme.token ∧
      ∀ placed ∈ layout.offsets.zip lexemes, ∀ pos ∈ placed.2.nodes,
        pos =
          (cursor.location.advanceAll (cursor.rest.take placed.1)).pos := by
  induction reads with
  | done cursor =>
      exact ⟨⟨[], [], List.forall_mem_nil _⟩, rfl, rfl, List.forall_mem_nil _⟩
  | blank blank reads ih =>
      rcases ih with ⟨layout, text, tokens, placed⟩
      refine ⟨layout.indent _ blank, ?_, ?_, ?_⟩
      · rw [Layout.text_indent, List.cons_append, text]
      · rw [Layout.tokens_indent, tokens]
      · rw [Layout.offsets_indent, List.zip_map_left, List.forall_mem_map]
        intro later member pos claimed
        rw [placed later member pos claimed]
        simp only [Prod.map, id, Nat.add_comm 1, List.take_succ_cons,
          Location.advanceAll_cons]
  | token lexeme nodes stops reads ih =>
      rcases ih with ⟨layout, text, tokens, placed⟩
      refine ⟨layout.prepend lexeme.token, ?_, ?_, ?_⟩
      · rw [Layout.text_prepend, List.append_assoc, text]
      · rw [Layout.tokens_prepend, tokens, List.map_cons]
      · rw [Layout.offsets_prepend, List.zip_cons_cons, List.zip_map_left,
          List.forall_mem_cons, List.forall_mem_map]
        constructor
        · intro pos claimed
          exact nodes pos claimed
        · intro later member pos claimed
          rw [placed later member pos claimed]
          simp only [Prod.map, id, List.take_length_add_append,
            Location.advanceAll_append]

/-- A way to the end of a text is a layout of what is left of it. -/
theorem exists_layout
    {cursor after : Cursor}
    {lexemes : List Lexeme}
    (reads : Reads cursor lexemes after)
    (atEnd : after.rest = []) :
    ∃ layout : Layout,
      layout.text = cursor.rest ∧
      layout.tokens = lexemes.map Lexeme.token ∧
      ∀ placed ∈ layout.offsets.zip lexemes, ∀ pos ∈ placed.2.nodes,
        pos =
          (cursor.location.advanceAll (cursor.rest.take placed.1)).pos := by
  rcases reads.exists_layout_append with ⟨layout, text, tokens, placed⟩
  rw [atEnd, List.append_nil] at text
  exact ⟨layout, text, tokens, placed⟩

end Reads

/-! ## Token readers -/

namespace Parser

variable {cursor after : Cursor}

/-- What was accepted stood next, and a word among it was not continued. -/
theorem rest_of_accept
    {symbol : String}
    (accepted : accept symbol cursor = .ok true after) :
    ∃ rest,
      cursor.skipBlanks.rest = symbol.toList ++ rest ∧
        after =
          ⟨cursor.skipBlanks.location.advanceAll symbol.toList, rest⟩ ∧
        (Cursor.isWordSymbol symbol.toList = true →
          rest.head?.any isAlphanumeric = false) := by
  rw [accept_eq] at accepted
  split at accepted
  next found =>
    cases accepted
    simp only [Cursor.atSymbol, Bool.and_eq_true, List.isPrefixOf_iff_prefix]
      at found
    rcases found with ⟨⟨rest, split⟩, ended⟩
    rw [← split, List.drop_left] at ended
    refine ⟨rest, split.symm, ?_, ?_⟩
    · simp only [Cursor.drop, ← split, List.take_left, List.drop_left]
    · intro word
      rw [word] at ended
      cases rest with
      | nil =>
          rfl
      | cons char rest =>
          simpa [Cursor.continuesWord] using ended
  next =>
    cases accepted

/-- A mark that was accepted is a token that was passed. -/
theorem reads_of_accept
    {mark : String}
    (accepted : accept mark cursor = .ok true after) :
    Reads cursor [(Token.symbol mark).bare] after := by
  rcases rest_of_accept accepted with ⟨rest, next, rfl, -⟩
  exact .of_skipBlanks (.single (.symbol mark) next trivial)

/-- A keyword that was accepted is a token that was passed. -/
theorem reads_of_accept_word
    {word : String}
    (isWord : Cursor.isWordSymbol word.toList = true)
    (accepted : accept word cursor = .ok true after) :
    Reads cursor [(Token.word word).bare] after := by
  rcases rest_of_accept accepted with ⟨rest, next, rfl, ended⟩
  exact .of_skipBlanks (.single (.word word) next (ended isWord))

/-- Nothing but blanks was passed by a symbol that was not accepted. -/
theorem eq_skipBlanks_of_accept
    {symbol : String}
    (accepted : accept symbol cursor = .ok false after) :
    after = cursor.skipBlanks := by
  rw [accept_eq] at accepted
  split at accepted
  next =>
    cases accepted
  next =>
    cases accepted
    rfl

theorem accept_of_require
    {symbol : String}
    (required : require symbol cursor = .ok () after) :
    accept symbol cursor = .ok true after := by
  rcases exists_of_bind_eq_ok required with ⟨accepted, middle, read, rest⟩
  cases accepted with
  | true =>
      cases rest
      exact read
  | false =>
      cases rest

/-- A name that was read is a word that was passed. -/
theorem reads_of_ident?
    {name : String}
    (read : ident? cursor = .ok (some name) after) :
    IsName name ∧ Reads cursor [(Token.word name).bare] after := by
  rw [ident?_eq] at read
  split at read
  next begins =>
    cases read
    constructor
    · rw [IsName, String.toList_ofList, List.head?_takeWhile]
      constructor
      · cases next : cursor.skipBlanks.rest.head? with
        | none =>
            simp [Cursor.next?, next] at begins
        | some char =>
            simp only [Cursor.next?, next, Option.any_some] at begins
            simp [isAlphanumeric_of_isLetter begins, begins]
      · exact List.all_takeWhile
    · exact .of_skipBlanks (.run (.word _) isAlphanumeric
        (String.toList_ofList ..) (head?_dropWhile _ _))
  next =>
    cases read

theorem reads_of_ident
    {what name : String}
    (read : ident what cursor = .ok name after) :
    IsName name ∧ Reads cursor [(Token.word name).bare] after := by
  rcases exists_of_bind_eq_ok read with ⟨found, middle, readName, rest⟩
  cases found with
  | some found =>
      cases rest
      exact reads_of_ident? readName
  | none =>
      cases rest

/-- A number that was read is a token that was passed. -/
theorem reads_of_numeral?
    {text : String}
    (read : numeral? cursor = .ok (some text) after) :
    IsNumber text ∧ Reads cursor [(Token.number text).bare] after := by
  rw [numeral?_eq] at read
  split at read
  next =>
    cases read
  next nonempty =>
    cases read
    constructor
    · rw [IsNumber, String.toList_ofList]
      constructor
      · simpa using nonempty
      · exact List.all_takeWhile
    · exact .of_skipBlanks (.run (.number _) isNumeric
        (String.toList_ofList ..) (head?_dropWhile _ _))

/-- Where no number begins, the cursor stands at another character. -/
theorem eq_skipBlanks_of_numeral?
    (read : numeral? cursor = .ok none after) :
    after = cursor.skipBlanks ∧
      cursor.skipBlanks.rest.head?.any isNumeric = false := by
  rw [numeral?_eq] at read
  split at read
  next empty =>
    have unmoved := Cursor.dropWhile_eq_self (List.isEmpty_iff.1 empty)
    rw [unmoved.1] at read
    cases read
    exact ⟨rfl, unmoved.2⟩
  next =>
    cases read

end Parser

end Sprig
