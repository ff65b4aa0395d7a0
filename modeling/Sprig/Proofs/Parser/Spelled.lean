import Sprig.Proofs.Parser.Reading

/-!
# Texts that spell tokens

`Spelled tokens text` says that a text is made of the given tokens and of
blanks, and that every token ends where the text makes it end: what follows a
word does not continue the word, and what follows a number does not continue
the number.  A separated layout spells its tokens.

Each token reader of the parser is described by what it does in front of a
text whose tokens are known: whether it finds what it looks for is decided by
the first of them, and what is left spells the others.  No position occurs
here, since the positions follow from what the reader passes.
-/

namespace Sprig

open Sprig.Text

/-! ## Tokens and the texts behind them -/

/-- A text that is made of tokens and blanks. -/
inductive Spelled : List Token → List Char → Prop where
  | done
      (blanks : List Char)
      (blank : ∀ char ∈ blanks, isBlank char = true) :
      Spelled [] blanks
  | token
      {rest : List Char} {tokens : List Token}
      (blanks : List Char)
      (token : Token)
      (blank : ∀ char ∈ blanks, isBlank char = true)
      (solid : token.Solid)
      (stops : token.Stops rest)
      (spelled : Spelled tokens rest) :
      Spelled (token :: tokens) (blanks ++ (token.text ++ rest))

/-- The character with which the first of some tokens begins. -/
def firstChar? (tokens : List Token) : Option Char :=
  tokens.head?.bind fun token => token.text.head?

@[simp]
theorem firstChar?_cons (token : Token) (tokens : List Token) :
    firstChar? (token :: tokens) = token.text.head? := rfl

theorem Token.Solid.head?_eq
    {token : Token}
    (solid : token.Solid)
    (rest : List Char) :
    (token.text ++ rest).head? = token.text.head? ∧
      (token.text ++ rest).head?.any isBlank = false := by
  rcases List.exists_cons_of_ne_nil solid.1 with ⟨char, others, text⟩
  have noBlank := solid.2.1 char (text ▸ .head _)
  simp [text, noBlank]

namespace Spelled

variable {token : Token} {tokens : List Token} {text : List Char}
variable {cursor : Cursor}

theorem length_le (spelled : Spelled tokens text) :
    tokens.length ≤ text.length := by
  induction spelled with
  | done blanks blank =>
      exact Nat.zero_le _
  | token blanks token blank solid stops spelled ih =>
      have nonempty := List.length_pos_iff.2 solid.1
      simp only [List.length_cons, List.length_append]
      omega

/-- The first token stands behind the blanks that come next. -/
theorem uncons (spelled : Spelled (token :: tokens) cursor.rest) :
    ∃ rest,
      cursor.skipBlanks.rest = token.text ++ rest ∧
        token.Solid ∧ token.Stops rest ∧ Spelled tokens rest := by
  generalize text : cursor.rest = whole at spelled
  cases spelled with
  | @token rest _ blanks _ blank solid stops spelled =>
      refine ⟨rest, ?_, solid, stops, spelled⟩
      rw [Cursor.skipBlanks, Cursor.dropWhile, text]
      exact (takeWhile_append_of_stops blank (solid.head?_eq rest).2).2

/-- Without tokens nothing stands behind the blanks. -/
theorem rest_eq_nil (spelled : Spelled [] cursor.rest) :
    cursor.skipBlanks.rest = [] := by
  generalize text : cursor.rest = whole at spelled
  cases spelled with
  | done blanks blank =>
      have ended : ([] : List Char).head?.any isBlank = false := rfl
      have left := (takeWhile_append_of_stops blank ended).2
      rw [List.append_nil] at left
      rw [Cursor.skipBlanks, Cursor.dropWhile, text, left]

/-- Blanks that are passed belong to no token. -/
theorem skipBlanks (spelled : Spelled tokens cursor.rest) :
    Spelled tokens cursor.skipBlanks.rest := by
  cases tokens with
  | nil =>
      rw [spelled.rest_eq_nil]
      exact .done [] (List.forall_mem_nil _)
  | cons token tokens =>
      rcases spelled.uncons with ⟨rest, next, solid, stops, spelled⟩
      rw [next]
      exact .token [] token (List.forall_mem_nil _) solid stops spelled

/-- The first token decides which character comes next. -/
theorem head?_eq (spelled : Spelled tokens cursor.rest) :
    cursor.skipBlanks.rest.head? = firstChar? tokens := by
  cases tokens with
  | nil =>
      rw [spelled.rest_eq_nil]
      rfl
  | cons token tokens =>
      rcases spelled.uncons with ⟨rest, next, solid, -⟩
      rw [next, (solid.head?_eq rest).1]
      rfl

end Spelled

/-! ## Separated layouts -/

/-- What does not begin like a word continues no token. -/
theorem Token.stops_of_head?
    {rest : List Char}
    (other : rest.head?.any isAlphanumeric = false)
    (token : Token) :
    token.Stops rest := by
  cases kind : token.kind with
  | word =>
      rw [Token.Stops, kind]
      exact other
  | number =>
      rw [Token.Stops, kind]
      cases next : rest.head? with
      | none =>
          rfl
      | some char =>
          simp only [next, Option.any_some, isAlphanumeric,
            Bool.or_eq_false_iff] at other
          exact other.2
  | symbol =>
      rw [Token.Stops, kind]
      trivial

/-- Blanks in front of a text keep it from continuing a word. -/
theorem head?_blanks_append
    {blanks rest : List Char}
    (blank : ∀ char ∈ blanks, isBlank char = true)
    (behind : blanks = [] → rest.head?.any isAlphanumeric = false) :
    (blanks ++ rest).head?.any isAlphanumeric = false := by
  cases blanks with
  | nil =>
      exact behind rfl
  | cons char others =>
      exact isAlphanumeric_eq_false_of_isBlank (blank char (.head _))

/-- In a separated layout no token is continued by what follows it. -/
theorem Layout.spelled
    {layout : Layout}
    (solid : ∀ token ∈ layout.tokens, token.Solid)
    (separated : layout.Separated) :
    Spelled layout.tokens layout.text := by
  rcases layout with ⟨pieces, trailing, blank⟩
  simp only [Layout.tokens, Layout.text, Layout.Separated]
    at solid separated ⊢
  induction pieces with
  | nil =>
      exact .done trailing blank
  | cons piece others ih =>
      have later := ih (fun token member => solid token (.tail _ member))
        separated.of_cons
      have stops : piece.token.Stops
          (others.flatMap Piece.text ++ trailing) := by
        cases others with
        | nil =>
            refine Token.stops_of_head? ?_ _
            rw [List.flatMap_nil, List.nil_append, ← List.append_nil trailing]
            exact head?_blanks_append blank fun _ => rfl
        | cons next further =>
            rw [List.flatMap_cons, Piece.text, List.append_assoc,
              List.append_assoc]
            by_cases isSymbol : piece.token.kind = .symbol
            · rw [Token.Stops, isSymbol]
              trivial
            · refine Token.stops_of_head?
                (head?_blanks_append next.blank ?_) _
              intro empty
              have nextSolid := solid next.token (.tail _ (.head _))
              have nextSymbol : next.token.kind = .symbol := by
                by_contra notSymbol
                exact separated.rel isSymbol notSymbol empty
              rw [(nextSolid.head?_eq _).1]
              exact nextSolid.2.2 nextSymbol
      have whole := Spelled.token piece.blanks piece.token piece.blank
        (solid _ (.head _)) stops later
      simpa [Piece.text] using whole

/-! ## Token readers in front of known tokens -/

namespace Parser

variable {token : Token} {tokens : List Token}
variable {cursor : Cursor}

/-- A symbol is not seen where a token begins with another character. -/
theorem not_atSymbol_of_spelled
    (symbol : List Char)
    (spelled : Spelled tokens cursor.rest)
    (nonempty : symbol ≠ [])
    (other : symbol.head? ≠ firstChar? tokens) :
    cursor.skipBlanks.atSymbol symbol = false := by
  rw [← Bool.not_eq_true]
  intro found
  simp only [Cursor.atSymbol, Bool.and_eq_true, List.isPrefixOf_iff_prefix]
    at found
  rcases found with ⟨⟨rest, next⟩, -⟩
  rcases List.exists_cons_of_ne_nil nonempty with ⟨char, others, rfl⟩
  rw [← spelled.head?_eq, ← next] at other
  exact other rfl

/-- A symbol that is a token of the text is seen; a word symbol is a word. -/
theorem atSymbol_of_spelled
    (spelled : Spelled (token :: tokens) cursor.rest)
    (word : Cursor.isWordSymbol token.text = true → token.kind = .word) :
    cursor.skipBlanks.atSymbol token.text = true := by
  rcases spelled.uncons with ⟨rest, next, solid, stops, -⟩
  rw [Cursor.atSymbol, next, List.drop_left, Bool.and_eq_true]
  constructor
  · rw [List.isPrefixOf_iff_prefix]
    exact List.prefix_append _ _
  · cases isWord : Cursor.isWordSymbol token.text with
    | false =>
        rfl
    | true =>
        rw [Token.Stops, word isWord] at stops
        cases rest with
        | nil =>
            rfl
        | cons char rest =>
            simpa [Cursor.continuesWord] using stops

theorem atSymbol_refused
    (symbol : String)
    (spelled : Spelled tokens cursor.rest)
    (nonempty : symbol.toList ≠ [])
    (other : symbol.toList.head? ≠ firstChar? tokens) :
    atSymbol symbol cursor = .ok false cursor.skipBlanks := by
  rw [atSymbol_eq, not_atSymbol_of_spelled _ spelled nonempty other]

theorem accept_refused
    (symbol : String)
    (spelled : Spelled tokens cursor.rest)
    (nonempty : symbol.toList ≠ [])
    (other : symbol.toList.head? ≠ firstChar? tokens) :
    accept symbol cursor = .ok false cursor.skipBlanks := by
  rw [accept_eq, not_atSymbol_of_spelled _ spelled nonempty other]
  rfl

theorem accept_spelled
    {symbol : String}
    (token : Token)
    (spelled : Spelled (token :: tokens) cursor.rest)
    (text : token.text = symbol.toList)
    (word : Cursor.isWordSymbol token.text = true → token.kind = .word) :
    ∃ after,
      accept symbol cursor = .ok true after ∧ Spelled tokens after.rest := by
  rcases spelled.uncons with ⟨rest, next, -, -, later⟩
  refine ⟨cursor.skipBlanks.drop symbol.toList.length, ?_, ?_⟩
  · rw [accept_eq, ← text, atSymbol_of_spelled spelled word]
    rfl
  · rw [Cursor.drop, next, ← text, List.drop_left]
    exact later

theorem require_spelled
    {symbol : String}
    (token : Token)
    (spelled : Spelled (token :: tokens) cursor.rest)
    (text : token.text = symbol.toList)
    (word : Cursor.isWordSymbol token.text = true → token.kind = .word) :
    ∃ after,
      require symbol cursor = .ok () after ∧ Spelled tokens after.rest := by
  rcases accept_spelled token spelled text word with ⟨after, accepted, later⟩
  exact ⟨after, bind_eq_of_ok accepted _, later⟩

theorem ident?_spelled
    {name : String}
    (isName : IsName name)
    (spelled : Spelled (.word name :: tokens) cursor.rest) :
    ∃ after,
      ident? cursor = .ok (some name) after ∧
        Spelled tokens after.rest := by
  rcases spelled.uncons with ⟨rest, next, solid, stops, later⟩
  rcases isName with ⟨begins, continues⟩
  rcases takeWhile_append_of_stops (List.all_eq_true.1 continues) stops with
    ⟨taken, left⟩
  have letter : cursor.skipBlanks.next?.any isLetter = true := by
    rw [Cursor.next?, next, (solid.head?_eq rest).1]
    exact begins
  refine ⟨cursor.skipBlanks.dropWhile isAlphanumeric, ?_, ?_⟩
  · rw [ident?_eq, if_pos letter, next]
    rw [Token.word, taken, String.ofList_toList]
  · show Spelled tokens (cursor.skipBlanks.rest.dropWhile isAlphanumeric)
    rw [next, Token.word, left]
    exact later

theorem ident_spelled
    {name : String}
    (what : String)
    (isName : IsName name)
    (spelled : Spelled (.word name :: tokens) cursor.rest) :
    ∃ after,
      ident what cursor = .ok name after ∧ Spelled tokens after.rest := by
  rcases ident?_spelled isName spelled with ⟨after, read, later⟩
  exact ⟨after, bind_eq_of_ok read _, later⟩

theorem numeral?_spelled
    {text : String}
    (isNumber : IsNumber text)
    (spelled : Spelled (.number text :: tokens) cursor.rest) :
    ∃ after,
      numeral? cursor = .ok (some text) after ∧
        Spelled tokens after.rest := by
  rcases spelled.uncons with ⟨rest, next, solid, stops, later⟩
  rcases isNumber with ⟨nonempty, digits⟩
  rcases takeWhile_append_of_stops (List.all_eq_true.1 digits) stops with
    ⟨taken, left⟩
  refine ⟨cursor.skipBlanks.dropWhile isNumeric, ?_, ?_⟩
  · rw [numeral?_eq, next]
    rw [Token.number, taken, String.ofList_toList, if_neg]
    simpa using nonempty
  · show Spelled tokens (cursor.skipBlanks.rest.dropWhile isNumeric)
    rw [next, Token.number, left]
    exact later

theorem numeral?_refused
    (spelled : Spelled tokens cursor.rest)
    (other : (firstChar? tokens).any isNumeric = false) :
    numeral? cursor = .ok none cursor.skipBlanks := by
  have outside : ([] ++ cursor.skipBlanks.rest).takeWhile isNumeric = [] := by
    refine (takeWhile_append_of_stops (by simp) ?_).1
    rw [spelled.head?_eq]
    exact other
  rw [List.nil_append] at outside
  rw [numeral?_eq, outside, (Cursor.dropWhile_eq_self outside).1]
  rfl

end Parser

end Sprig
