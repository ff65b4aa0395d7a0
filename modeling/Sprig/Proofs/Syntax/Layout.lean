import Mathlib.Data.List.Basic
import Sprig.Proofs.Syntax.Spelling
import Sprig.Proofs.Text.LineColumn

/-!
# Layouts

A layout is a way to write a list of tokens down: some blanks, possibly none,
in front of each token and behind the last one.  `Layout.Separated` asks for
at least one blank where a word or a number follows another.

Two facts make layouts the right notion of a text that spells its tokens.
`Layout.covers` says that the tokens stand in the text one after the other
and are exactly the characters of it that are not blank.  `Layout.offsets_eq`
says that text and tokens leave no choice of where the tokens stand.
-/

namespace Sprig

open Sprig.Text

/-- A token with the blanks in front of it. -/
structure Piece where
  blanks : List Char
  token : Token
  blank : ∀ char ∈ blanks, isBlank char

/-- The blanks and the token. -/
def Piece.text (piece : Piece) : List Char :=
  piece.blanks ++ piece.token.text

/-- Tokens with the blanks around them. -/
structure Layout where
  pieces : List Piece
  trailing : List Char
  blank : ∀ char ∈ trailing, isBlank char

/-- Where the tokens of consecutive pieces begin. -/
def pieceOffsets : List Piece → List Nat
  | [] => []
  | piece :: others =>
      piece.blanks.length ::
        (pieceOffsets others).map (piece.text.length + ·)

namespace Layout

/-- The tokens alone. -/
def tokens (layout : Layout) : List Token :=
  layout.pieces.map Piece.token

/-- The characters of a layout. -/
def text (layout : Layout) : List Char :=
  layout.pieces.flatMap Piece.text ++ layout.trailing

/-- Where each token begins. -/
def offsets (layout : Layout) : List Nat :=
  pieceOffsets layout.pieces

/-- A word or a number is not followed directly by another. -/
def Separated (layout : Layout) : Prop :=
  layout.pieces.IsChain fun left right =>
    left.token.kind ≠ .symbol → right.token.kind ≠ .symbol →
      right.blanks ≠ []

/-- The layout with one more blank in front. -/
def indent
    (layout : Layout)
    (char : Char)
    (blank : isBlank char) :
    Layout :=
  match layout with
  | ⟨[], trailing, trailingBlank⟩ =>
      ⟨[], char :: trailing, List.forall_mem_cons.2 ⟨blank, trailingBlank⟩⟩
  | ⟨piece :: others, trailing, trailingBlank⟩ =>
      ⟨⟨char :: piece.blanks, piece.token,
          List.forall_mem_cons.2 ⟨blank, piece.blank⟩⟩ :: others,
        trailing, trailingBlank⟩

/-- The layout with one more token directly in front. -/
def prepend (layout : Layout) (token : Token) : Layout :=
  ⟨⟨[], token, nofun⟩ :: layout.pieces, layout.trailing, layout.blank⟩

@[simp]
theorem text_indent
    (layout : Layout)
    (char : Char)
    (blank : isBlank char) :
    (layout.indent char blank).text = char :: layout.text := by
  rcases layout with ⟨pieces, trailing, trailingBlank⟩
  cases pieces with
  | nil =>
      rfl
  | cons piece others =>
      rfl

@[simp]
theorem tokens_indent
    (layout : Layout)
    (char : Char)
    (blank : isBlank char) :
    (layout.indent char blank).tokens = layout.tokens := by
  rcases layout with ⟨pieces, trailing, trailingBlank⟩
  cases pieces with
  | nil =>
      rfl
  | cons piece others =>
      rfl

@[simp]
theorem offsets_indent
    (layout : Layout)
    (char : Char)
    (blank : isBlank char) :
    (layout.indent char blank).offsets = layout.offsets.map (1 + ·) := by
  rcases layout with ⟨pieces, trailing, trailingBlank⟩
  cases pieces with
  | nil =>
      rfl
  | cons piece others =>
      simp only [indent, offsets, pieceOffsets, Piece.text,
        List.cons_append, List.length_cons, List.map_cons, List.map_map]
      congr 1
      · omega
      · apply List.map_congr_left
        intro offset member
        simp only [Function.comp_apply]
        omega

@[simp]
theorem text_prepend (layout : Layout) (token : Token) :
    (layout.prepend token).text = token.text ++ layout.text := by
  simp [prepend, text, Piece.text]

@[simp]
theorem tokens_prepend (layout : Layout) (token : Token) :
    (layout.prepend token).tokens = token :: layout.tokens := rfl

@[simp]
theorem offsets_prepend (layout : Layout) (token : Token) :
    (layout.prepend token).offsets =
      0 :: layout.offsets.map (token.text.length + ·) := rfl

/-- Where no blank comes first, the first token does. -/
theorem head?_offsets
    {layout : Layout}
    (nonempty : layout.tokens ≠ [])
    (notBlank : layout.text.head?.any isBlank = false) :
    layout.offsets.head? = some 0 := by
  rcases layout with ⟨pieces, trailing, trailingBlank⟩
  cases pieces with
  | nil =>
      exact (nonempty rfl).elim
  | cons piece others =>
      rcases piece with ⟨blanks, token, blank⟩
      cases blanks with
      | nil =>
          rfl
      | cons char blanks =>
          have first : isBlank char = true := blank char (.head _)
          simp [text, Piece.text, first] at notBlank

end Layout

/--
Tokens stand at offsets of a text in order and without overlap, and they are
together what is not blank in it.
-/
structure Covers
    (text : List Char)
    (offsets : List Nat)
    (tokens : List Token) : Prop where
  length_eq : offsets.length = tokens.length
  nonempty : ∀ token ∈ tokens, token.text ≠ []
  stands : ∀ placed ∈ offsets.zip tokens,
    placed.2.text <+: text.drop placed.1
  ordered : (offsets.zip tokens).Pairwise fun earlier later =>
    earlier.1 + earlier.2.text.length ≤ later.1
  exact : ∀ (offset : Nat) (inside : offset < text.length),
    isBlank text[offset] = false ↔
      ∃ placed ∈ offsets.zip tokens,
        placed.1 ≤ offset ∧ offset < placed.1 + placed.2.text.length

/-- A character that is not blank stands at an offset. -/
def SolidAt (text : List Char) (offset : Nat) : Prop :=
  ∃ char, text[offset]? = some char ∧ isBlank char = false

theorem solidAt_of_drop
    {text rest : List Char}
    {offset : Nat}
    {char : Char}
    (next : text.drop offset = char :: rest)
    (notBlank : isBlank char = false) :
    SolidAt text offset := by
  refine ⟨char, ?_, notBlank⟩
  rw [← List.head?_drop, next]
  rfl

theorem Covers.solidAt
    {text : List Char}
    {offsets : List Nat}
    {tokens : List Token}
    {placed : Nat × Token}
    (covers : Covers text offsets tokens)
    (member : placed ∈ offsets.zip tokens) :
    SolidAt text placed.1 := by
  have nonempty := covers.nonempty _ (List.of_mem_zip member).2
  have positive := List.length_pos_iff.2 nonempty
  have fits := (covers.stands _ member).length_le
  rw [List.length_drop] at fits
  have inside : placed.1 < text.length := by omega
  refine ⟨text[placed.1], List.getElem?_eq_getElem inside, ?_⟩
  exact (covers.exact _ inside).2
    ⟨placed, member, Nat.le_refl _, Nat.lt_add_of_pos_right positive⟩

/-- Each node is positioned where its first token begins. -/
def PlacedAt
    (text : List Char)
    (offsets : List Nat)
    (lexemes : List Lexeme) : Prop :=
  ∀ placed ∈ offsets.zip lexemes, ∀ pos ∈ placed.2.nodes,
    pos = posAt text placed.1

/-! ## The tokens are what is not blank -/

theorem covers_nil
    {blanks : List Char}
    (blank : ∀ char ∈ blanks, isBlank char) :
    Covers blanks [] [] where
  length_eq := rfl
  nonempty := by simp
  stands := by simp
  ordered := by simp
  exact := by
    intro offset inside
    simp [blank _ (List.getElem_mem inside)]

/-- A token in front of a text that other tokens cover. -/
theorem Covers.cons
    {blanks rest : List Char}
    {token : Token}
    {offsets : List Nat}
    {tokens : List Token}
    (covers : Covers rest offsets tokens)
    (blank : ∀ char ∈ blanks, isBlank char)
    (solid : token.Solid) :
    Covers (blanks ++ token.text ++ rest)
      (blanks.length ::
        offsets.map ((blanks ++ token.text).length + ·))
      (token :: tokens) where
  length_eq := by simp [covers.length_eq]
  nonempty := by
    intro other member
    rcases List.mem_cons.1 member with rfl | member
    · exact solid.1
    · exact covers.nonempty other member
  stands := by
    intro placed member
    rw [List.zip_cons_cons, List.zip_map_left] at member
    rcases List.mem_cons.1 member with rfl | member
    · rw [List.append_assoc, List.drop_left]
      exact List.prefix_append _ _
    · rcases List.mem_map.1 member with ⟨earlier, earlierMember, rfl⟩
      simp only [Prod.map, id]
      rw [List.drop_length_add_append]
      exact covers.stands earlier earlierMember
  ordered := by
    rw [List.zip_cons_cons, List.zip_map_left, List.pairwise_cons]
    constructor
    · intro later member
      rcases List.mem_map.1 member with ⟨placed, -, rfl⟩
      simp [Prod.map]
    · rw [List.pairwise_map]
      apply covers.ordered.imp
      intro earlier later before
      simp only [Prod.map, id]
      omega
  exact := by
    intro offset inside
    rw [List.zip_cons_cons, List.zip_map_left]
    simp only [List.mem_cons, List.mem_map, exists_eq_or_imp,
      exists_exists_and_eq_and, Prod.map, id]
    rcases Nat.lt_or_ge offset (blanks ++ token.text).length with ahead | behind
    · have notLater : ¬ ∃ placed ∈ offsets.zip tokens,
          (blanks ++ token.text).length + placed.1 ≤ offset ∧
            offset < (blanks ++ token.text).length + placed.1 +
              placed.2.text.length := by
        rintro ⟨placed, -, lower, -⟩
        omega
      rw [List.getElem_append_left ahead, or_iff_left notLater]
      rcases Nat.lt_or_ge offset blanks.length with before | within
      · rw [List.getElem_append_left before,
          blank _ (List.getElem_mem before)]
        simp only [Bool.true_eq_false, false_iff]
        omega
      · rw [List.getElem_append_right within,
          solid.2.1 _ (List.getElem_mem _)]
        rw [List.length_append] at ahead
        simp only [true_iff]
        omega
    · have notFirst : ¬ (blanks.length ≤ offset ∧
          offset < blanks.length + token.text.length) := by
        rw [List.length_append] at behind
        omega
      rw [List.getElem_append_right behind, or_iff_right notFirst,
        covers.exact]
      constructor
      · rintro ⟨placed, member, lower, upper⟩
        exact ⟨placed, member, by omega, by omega⟩
      · rintro ⟨placed, member, lower, upper⟩
        exact ⟨placed, member, by omega, by omega⟩

/-- The tokens of a layout are exactly what is not blank in it. -/
theorem Layout.covers
    (layout : Layout)
    (solid : ∀ token ∈ layout.tokens, token.Solid) :
    Covers layout.text layout.offsets layout.tokens := by
  rcases layout with ⟨pieces, trailing, blank⟩
  simp only [Layout.tokens, Layout.text, Layout.offsets] at solid ⊢
  induction pieces with
  | nil =>
      exact covers_nil blank
  | cons piece others ih =>
      have covered := ih fun token member => solid token (.tail _ member)
      have extended := covered.cons piece.blank (solid _ (.head _))
      simpa [Piece.text, pieceOffsets] using extended

/-! ## Text and tokens fix the offsets -/

/-- Blanks in front of a solid token end where the token begins. -/
theorem blanks_eq_of_append_eq
    {first second : List Char}
    {token : Token}
    {firstRest secondRest : List Char}
    (firstBlank : ∀ char ∈ first, isBlank char)
    (secondBlank : ∀ char ∈ second, isBlank char)
    (solid : token.Solid)
    (same : first ++ (token.text ++ firstRest) =
      second ++ (token.text ++ secondRest)) :
    first = second := by
  rcases List.exists_cons_of_ne_nil solid.1 with ⟨head, tail, text⟩
  have headSolid : ¬ isBlank head = true := by
    rw [solid.2.1 head (text ▸ .head _)]
    exact Bool.false_ne_true
  have taken := congrArg (List.takeWhile isBlank) same
  rw [List.takeWhile_append_of_pos firstBlank,
    List.takeWhile_append_of_pos secondBlank, text, List.cons_append,
    List.cons_append, List.takeWhile_cons_of_neg headSolid,
    List.takeWhile_cons_of_neg headSolid, List.append_nil,
    List.append_nil] at taken
  exact taken

/-- Two layouts of the same tokens in the same text agree on the offsets. -/
theorem Layout.offsets_eq
    {first second : Layout}
    (text : first.text = second.text)
    (tokens : first.tokens = second.tokens)
    (solid : ∀ token ∈ first.tokens, token.Solid) :
    first.offsets = second.offsets := by
  rcases first with ⟨pieces, trailing, blank⟩
  rcases second with ⟨otherPieces, otherTrailing, otherBlank⟩
  simp only [Layout.tokens, Layout.text, Layout.offsets]
    at text tokens solid ⊢
  induction pieces generalizing otherPieces with
  | nil =>
      rw [List.map_nil, eq_comm, List.map_eq_nil_iff] at tokens
      rw [tokens]
  | cons piece others ih =>
      cases otherPieces with
      | nil =>
          cases tokens
      | cons otherPiece otherOthers =>
          simp only [List.map_cons, List.cons.injEq] at tokens
          rcases tokens with ⟨sameToken, sameTokens⟩
          simp only [List.flatMap_cons, Piece.text, List.append_assoc,
            ← sameToken] at text
          have sameBlanks := blanks_eq_of_append_eq piece.blank
            otherPiece.blank (solid _ (.head _)) text
          rw [sameBlanks, List.append_cancel_left_eq,
            List.append_cancel_left_eq] at text
          have sameOffsets := ih
            (fun token member => solid token (.tail _ member))
            otherOthers text sameTokens
          simp only [pieceOffsets, Piece.text, sameBlanks, sameToken,
            sameOffsets]

end Sprig
