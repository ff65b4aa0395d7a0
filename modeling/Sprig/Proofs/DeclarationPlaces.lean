import Mathlib.Data.List.Flatten
import Sprig.Proofs.Typing.ChargeOffset

/-!
# Where declarations stand

Every node of a tree is meant to be positioned at the first character of its
own text.  For a declaration that is its first name, and declarations that
follow one another in a list of parameters or in a statement are then at
positions that follow one another as well.

Groups that share an annotation are positioned so, wherever they occur.  Names
that are declared without annotations are not: each of them has a declaration
of its own, but all of these carry the position of the statement, which is the
place of the first name.  The main theorem says exactly when the declarations
of a statement stand at their own names, and where they stand otherwise.

Two facts about a parsed source carry this.  A token that begins a node stands
whole at the position of the node (`wordAt_of_begins`), and the nodes of
earlier tokens stand before those of later ones (`spelling_ascending`).
-/

namespace Sprig

open Sprig.Text

/-! ## The order of positions -/

/-- An earlier line, or an earlier column of the same line. -/
def Pos.Before (first second : Pos) : Prop :=
  first.line < second.line ∨
    first.line = second.line ∧ first.col < second.col

instance : DecidableRel Pos.Before := fun _ _ =>
  inferInstanceAs (Decidable (_ ∨ _))

theorem Pos.Before.irrefl (pos : Pos) : ¬ pos.Before pos := by
  simp [Before]

theorem Pos.Before.trans
    {first second third : Pos}
    (begins : first.Before second)
    (ends : second.Before third) :
    first.Before third := by
  simp only [Before] at begins ends ⊢
  omega

theorem before_advance (place : Location) (char : Char) :
    place.pos.Before (place.advance char).pos := by
  by_cases feed : char = '\n'
  · apply Or.inl
    simp only [Location.pos, Location.advance, feed, ↓reduceIte]
    omega
  · apply Or.inr
    constructor
    · simp [Location.pos, Location.advance, feed]
    · simp only [Location.pos, Location.advance, feed, ↓reduceIte]
      omega

/-- A text that is passed leads to a later position. -/
theorem before_advanceAll
    {text : List Char}
    (nonempty : text ≠ [])
    (place : Location) :
    place.pos.Before (place.advanceAll text).pos := by
  induction text generalizing place with
  | nil =>
      exact (nonempty rfl).elim
  | cons char text ih =>
      have first := before_advance place char
      by_cases last : text = []
      · simpa [last] using first
      · exact first.trans (ih last (place.advance char))

/-- Positions follow one another as the offsets of a text do. -/
theorem posAt_before
    {text : List Char}
    {first second : Nat}
    (before : first < second)
    (inside : second ≤ text.length) :
    (posAt text first).Before (posAt text second) := by
  have split : text.take second =
      text.take first ++ (text.drop first).take (second - first) := by
    rw [← List.take_add, Nat.add_sub_cancel' (Nat.le_of_lt before)]
  have between : (text.drop first).take (second - first) ≠ [] := by
    apply List.ne_nil_of_length_pos
    simp only [List.length_take, List.length_drop]
    omega
  rw [posAt, posAt, ← pos_advanceAll_start, ← pos_advanceAll_start, split,
    Location.advanceAll_append]
  exact before_advanceAll between _

theorem posAt_injective
    {text : List Char}
    {first second : Nat}
    (firstInside : first ≤ text.length)
    (secondInside : second ≤ text.length)
    (same : posAt text first = posAt text second) :
    first = second := by
  rcases Nat.lt_trichotomy first second with before | equal | behind
  · have apart := posAt_before before secondInside
    rw [same] at apart
    exact (Pos.Before.irrefl _ apart).elim
  · exact equal
  · have apart := posAt_before behind firstInside
    rw [same] at apart
    exact (Pos.Before.irrefl _ apart).elim

/-! ## Words at positions -/

/-- A text goes on with a name at a position, and the name is a whole word. -/
def WordAt (text : List Char) (pos : Pos) (name : String) : Prop :=
  ∃ offset, offset < text.length ∧
    pos = posAt text offset ∧
      (text.drop offset).takeWhile isAlphanumeric = name.toList

instance (text : List Char) (pos : Pos) (name : String) :
    Decidable (WordAt text pos name) :=
  inferInstanceAs (Decidable (∃ offset, offset < text.length ∧ _))

/-- No more than one word stands at a position. -/
theorem WordAt.unique
    {text : List Char}
    {pos : Pos}
    {first second : String}
    (here : WordAt text pos first)
    (also : WordAt text pos second) :
    first = second := by
  rcases here with ⟨offset, inside, placed, word⟩
  rcases also with ⟨other, otherInside, otherPlaced, otherWord⟩
  have same : offset = other :=
    posAt_injective (Nat.le_of_lt inside) (Nat.le_of_lt otherInside)
      (placed.symm.trans otherPlaced)
  subst same
  exact String.toList_inj.1 (word.symm.trans otherWord)

/-! ## Lexemes that are passed -/

/-- A lexeme stands whole behind a text that is still ahead of a cursor. -/
structure Cursor.Shows
    (cursor : Cursor)
    (lexeme : Lexeme)
    (between rest : List Char) : Prop where
  ahead : cursor.rest = between ++ (lexeme.token.text ++ rest)
  stops : lexeme.token.Stops rest
  nodes : ∀ pos ∈ lexeme.nodes,
    pos = (cursor.location.advanceAll between).pos

/-- A lexeme that a later cursor shows is shown behind what is passed first. -/
theorem Cursor.Shows.behind
    {location : Location}
    {text ahead between rest : List Char}
    {lexeme : Lexeme}
    (shows : Cursor.Shows ⟨location.advanceAll text, ahead⟩ lexeme
      between rest) :
    Cursor.Shows ⟨location, text ++ ahead⟩ lexeme (text ++ between) rest where
  ahead := by
    have split : ahead = between ++ (lexeme.token.text ++ rest) := shows.ahead
    rw [split, List.append_assoc]
  stops := shows.stops
  nodes := by
    rw [Location.advanceAll_append]
    exact shows.nodes

/-- All nodes of one lexeme stand before all nodes of the other. -/
def Lexeme.Before (earlier later : Lexeme) : Prop :=
  ∀ pos ∈ earlier.nodes, ∀ next ∈ later.nodes, pos.Before next

namespace Reads

variable {cursor after : Cursor}
variable {lexemes : List Lexeme}
variable {lexeme : Lexeme}

theorem exists_shows
    (reads : Reads cursor lexemes after)
    (member : lexeme ∈ lexemes) :
    ∃ between rest, cursor.Shows lexeme between rest := by
  induction reads with
  | done cursor =>
      cases member
  | @blank location char ahead _ _ blank reads ih =>
      rcases ih member with ⟨between, rest, shows⟩
      have later : Cursor.Shows ⟨location.advanceAll [char], ahead⟩ lexeme
          between rest :=
        shows
      exact ⟨[char] ++ between, rest, later.behind⟩
  | token first nodes stops reads ih =>
      rcases List.mem_cons.1 member with rfl | member
      · exact ⟨[], _, rfl, stops, nodes⟩
      · rcases ih member with ⟨between, rest, shows⟩
        exact ⟨first.token.text ++ between, rest, shows.behind⟩

/-- Lexemes are passed in the order of the positions of their nodes. -/
theorem ascending
    (reads : Reads cursor lexemes after)
    (nonempty : ∀ lexeme ∈ lexemes, lexeme.token.text ≠ []) :
    lexemes.Pairwise Lexeme.Before := by
  induction reads with
  | done cursor =>
      exact .nil
  | blank blank reads ih =>
      exact ih nonempty
  | token first nodes stops reads ih =>
      rw [List.forall_mem_cons] at nonempty
      apply List.Pairwise.cons
      -- Whatever begins a later lexeme stands behind the text of this one,
      -- which has at least one character.
      · intro later member pos begun next claimed
        rcases reads.exists_shows member with ⟨between, rest, shows⟩
        rw [nodes pos begun, shows.nodes next claimed,
          ← Location.advanceAll_append]
        apply before_advanceAll
        simp [nonempty.1]
      · exact ih nonempty.2

end Reads

section

variable {source : String}
variable {function : Function}

/-- All nodes of one lexeme stand at the same position. -/
theorem nodes_eq_of_parse
    {lexeme : Lexeme}
    (parsed : parse source = .ok function)
    (member : lexeme ∈ function.spelling) :
    ∀ pos ∈ lexeme.nodes, ∀ other ∈ lexeme.nodes, pos = other := by
  intro pos node other also
  rcases exists_reads_of_parse parsed with ⟨-, after, reads, -⟩
  rcases reads.exists_shows member with ⟨between, rest, shows⟩
  exact (shows.nodes pos node).trans (shows.nodes other also).symm

/-- A node that begins with a name stands where the name does. -/
theorem wordAt_of_begins
    {pos : Pos}
    {name : String}
    (parsed : parse source = .ok function)
    (isName : IsName name)
    (begins : Begins function.spelling pos (.word name)) :
    WordAt source.toList pos name := by
  rcases exists_reads_of_parse parsed with ⟨-, after, reads, -⟩
  rcases begins with ⟨lexeme, member, node, isToken⟩
  rcases reads.exists_shows member with ⟨between, rest, ahead, stops, nodes⟩
  rw [isToken] at ahead stops
  have split : source.toList = between ++ (name.toList ++ rest) := ahead
  have placed : pos = lineColumn between :=
    (nodes pos node).trans (pos_advanceAll_start between)
  refine ⟨between.length, ?_, ?_, ?_⟩
  · have positive := List.length_pos_iff.2 isName.solid.1
    have counted : (Token.word name).text.length = name.toList.length := rfl
    rw [split, List.length_append, List.length_append]
    omega
  · rw [posAt, split, List.take_left, placed]
  · rw [split, List.drop_left]
    exact (takeWhile_append_of_stops (List.all_eq_true.1 isName.2) stops).1

/-- The tokens of a source begin nodes in the order of their positions. -/
theorem spelling_ascending (parsed : parse source = .ok function) :
    function.spelling.Pairwise Lexeme.Before := by
  rcases exists_reads_of_parse parsed with ⟨wellFormed, after, reads, -⟩
  apply reads.ascending
  intro lexeme member
  exact (wellFormed.solid _ (List.mem_map_of_mem member)).1

end

/-! ## The parts of a spelling -/

theorem params_sublist_spelling (function : Function) :
    (commaBetween (function.params.map Decl.spelling)).Sublist
      function.spelling :=
  .cons _ (.cons _ (.cons _ (List.sublist_append_left _ _)))

theorem stmt_sublist_spelling
    {function : Function}
    {statement : Stmt}
    (member : statement ∈ function.body) :
    statement.spelling.Sublist function.spelling := by
  have single : ([statement].flatMap Stmt.spelling).Sublist
      (function.body.flatMap Stmt.spelling) :=
    (List.singleton_sublist.2 member).flatMap Stmt.spelling
  rw [List.flatMap_singleton] at single
  rw [Parser.spelling_eq_headSpelling]
  exact (single.trans (List.sublist_append_left _ _)).trans
    (List.sublist_append_right _ _)

theorem flatMap_sublist_commaBetween
    {α : Type}
    (spelling : α → List Lexeme)
    (items : List α) :
    (items.flatMap spelling).Sublist
      (commaBetween (items.map spelling)) := by
  cases items with
  | nil =>
      exact .slnil
  | cons first others =>
      rw [List.flatMap_cons, List.map_cons, commaBetween, commaBefore_map]
      apply List.Sublist.append_left
      exact .flatMap_right others fun item _ => List.sublist_cons_self _ _

/-- The order does not depend on the nodes that are added in front. -/
theorem pairwise_of_beginning
    {nodes : List Pos}
    {lexemes : List Lexeme}
    (ordered : (beginning nodes lexemes).Pairwise Lexeme.Before) :
    lexemes.Pairwise Lexeme.Before := by
  cases lexemes with
  | nil =>
      exact .nil
  | cons first others =>
      rcases List.pairwise_cons.1 ordered with ⟨firstBefore, othersOrdered⟩
      apply List.Pairwise.cons
      · intro later member pos begun
        exact firstBefore later member pos (List.mem_append_right _ begun)
      · exact othersOrdered

/-! ## Declarations -/

/-- The declarations that a statement makes. -/
def Stmt.decls : Stmt → List Decl
  | .decl _ decls _ => decls
  | _ => []

/-- A declaration stands where the first of its names does. -/
def Decl.AtOwnName (text : List Char) (decl : Decl) : Prop :=
  ∃ name ∈ decl.idents.head?, WordAt text decl.pos name

/-- Declarations stand at their own names, one after the other. -/
structure OwnPlaces (text : List Char) (decls : List Decl) : Prop where
  own : ∀ decl ∈ decls, decl.AtOwnName text
  ascending : (decls.map Decl.pos).Pairwise Pos.Before

/-- Several declarations, none of which has an annotation. -/
def DeclaredTogether (decls : List Decl) : Prop :=
  2 ≤ decls.length ∧ ∀ decl ∈ decls, decl.type = none

/--
Declarations all stand at one position.  Only those that declare the first
name once more stand at their own name there.
-/
structure SharedPlace
    (text : List Char) (pos : Pos) (decls : List Decl) : Prop where
  shared : ∀ decl ∈ decls, decl.pos = pos
  own_iff : ∀ decl ∈ decls,
    decl.AtOwnName text ↔
      decl.idents.head? = (declaredNames decls).head?

theorem ownPlaces_nil (text : List Char) : OwnPlaces text [] where
  own := List.forall_mem_nil _
  ascending := .nil

/-- Declarations at one place do not stand one after the other. -/
theorem SharedPlace.not_ownPlaces
    {text : List Char}
    {pos : Pos}
    {decls : List Decl}
    (place : SharedPlace text pos decls)
    (several : 2 ≤ decls.length) :
    ¬ OwnPlaces text decls := by
  rintro ⟨-, ascending⟩
  rcases decls with - | ⟨first, - | ⟨second, others⟩⟩
  · simp at several
  · simp at several
  · have before := List.rel_of_pairwise_cons ascending (.head _)
    rw [place.shared first (.head _),
      place.shared second (.tail _ (.head _))] at before
    exact Pos.Before.irrefl pos before

/-! ## Groups -/

theorem Decl.IsGroup.begins
    {decl : Decl}
    (isGroup : decl.IsGroup) :
    ∃ name ∈ decl.idents.head?,
      IsName name ∧ Begins decl.spelling decl.pos (.word name) := by
  rcases isGroup.1 with ⟨nonempty, areNames⟩
  rcases decl with ⟨pos, names, type⟩
  rcases List.exists_cons_of_ne_nil nonempty with ⟨name, others, rfl⟩
  exact ⟨name, rfl, areNames name (.head _), _, .head _, .head _, rfl⟩

/-- Groups between commas stand in the order in which they are written. -/
theorem ascending_of_groups
    {decls : List Decl}
    (groups : ∀ decl ∈ decls, decl.IsGroup)
    (ordered :
      (commaBetween (decls.map Decl.spelling)).Pairwise Lexeme.Before) :
    (decls.map Decl.pos).Pairwise Pos.Before := by
  -- Without the commas the spelling is group by group, so that the order of
  -- the lexemes is an order of the groups.
  have apart := (List.pairwise_flatMap.1
    (ordered.sublist (flatMap_sublist_commaBetween _ decls))).2
  rw [List.pairwise_map]
  apply apart.imp_of_mem
  intro first second firstMember secondMember before
  rcases (groups first firstMember).begins with
    ⟨-, -, -, lexeme, member, node, -⟩
  rcases (groups second secondMember).begins with
    ⟨-, -, -, later, laterMember, laterNode, -⟩
  exact before lexeme member later laterMember _ node _ laterNode

section

variable {source : String}
variable {function : Function}
variable {decls : List Decl}

/-- Groups that a source spells between commas stand at their own names. -/
theorem ownPlaces_of_groups
    (parsed : parse source = .ok function)
    (groups : ∀ decl ∈ decls, decl.IsGroup)
    (ordered :
      (commaBetween (decls.map Decl.spelling)).Pairwise Lexeme.Before)
    (spelled : ∀ pos token,
      Begins (commaBetween (decls.map Decl.spelling)) pos token →
        Begins function.spelling pos token) :
    OwnPlaces source.toList decls where
  own := by
    intro decl member
    rcases (groups decl member).begins with ⟨name, first, isName, begins⟩
    have listed := Begins.commaBetween member begins
    exact ⟨name, first, wordAt_of_begins parsed isName (spelled _ _ listed)⟩
  ascending := ascending_of_groups groups ordered

theorem ownPlaces_params (parsed : parse source = .ok function) :
    OwnPlaces source.toList function.params := by
  rcases exists_reads_of_parse parsed with ⟨wellFormed, -⟩
  have sublist := params_sublist_spelling function
  apply ownPlaces_of_groups parsed wellFormed.params
  · exact (spelling_ascending parsed).sublist sublist
  · intro pos token begins
    exact begins.mono sublist.subset

/-- The groups of a declaration statement. -/
theorem ownPlaces_of_declared_groups
    {pos : Pos}
    {value : Option Expr}
    (parsed : parse source = .ok function)
    (member : .decl pos decls value ∈ function.body)
    (nonempty : decls ≠ [])
    (groups : ∀ decl ∈ decls, decl.IsGroup) :
    OwnPlaces source.toList decls := by
  have spelling : (Stmt.decl pos decls value).spelling =
      beginning [pos]
        (commaBetween (decls.map Decl.spelling) ++ spellInitializer value) := by
    rw [Stmt.spelling, spellDecls_of_groups nonempty groups]
  have ordered :=
    (spelling_ascending parsed).sublist (stmt_sublist_spelling member)
  rw [spelling] at ordered
  apply ownPlaces_of_groups parsed groups
  · exact (pairwise_of_beginning ordered).sublist
      (List.sublist_append_left _ _)
  · intro pos token begins
    apply Function.begins_inBody member
    rw [spelling]
    exact (begins.mono (List.subset_append_left _ _)).beginning _

/-! ## Names without annotations -/

/-- Names that are declared without annotations share the place of the first. -/
theorem sharedPlace_of_inferred
    {pos : Pos}
    {value : Option Expr}
    (parsed : parse source = .ok function)
    (member : .decl pos decls value ∈ function.body)
    (nonempty : decls ≠ [])
    (inferred : ∀ decl ∈ decls, decl.IsInferred) :
    SharedPlace source.toList pos decls := by
  have areNames := isNameList_declaredNames nonempty
    fun decl listed => (inferred decl listed).2.1
  rcases List.exists_cons_of_ne_nil areNames.1 with ⟨first, others, names⟩
  have isName : IsName first := areNames.2 first (names ▸ .head _)
  -- The first name begins the statement and every one of its declarations.
  have begins : (⟨.word first, [pos] ++ (decls.map Decl.pos ++ [])⟩ : Lexeme) ∈
      (Stmt.decl pos decls value).spelling := by
    rw [Stmt.spelling, spellDecls_of_inferred inferred, names]
    exact .head _
  have listed := (stmt_sublist_spelling member).subset begins
  have shared : ∀ decl ∈ decls, decl.pos = pos := by
    intro decl declared
    apply nodes_eq_of_parse parsed listed
    · simp [List.mem_map_of_mem declared]
    · exact .head _
  refine ⟨shared, fun decl declared => ?_⟩
  have word : WordAt source.toList decl.pos first := by
    apply wordAt_of_begins parsed isName
    exact ⟨_, listed, by simp [List.mem_map_of_mem declared], rfl⟩
  rw [names, List.head?_cons]
  constructor
  · rintro ⟨name, own, here⟩
    rw [← here.unique word]
    exact own
  · intro own
    exact ⟨first, own, word⟩

/-- A single declaration at a shared place stands at its own name. -/
theorem SharedPlace.ownPlaces
    {text : List Char}
    {pos : Pos}
    (place : SharedPlace text pos decls)
    (single : decls.length < 2) :
    OwnPlaces text decls := by
  rcases decls with - | ⟨decl, - | ⟨second, others⟩⟩
  · exact ownPlaces_nil text
  · have own : decl.AtOwnName text := by
      apply (place.own_iff decl (.head _)).2
      simp [declaredNames]
    exact ⟨by simpa using own, List.pairwise_singleton _ _⟩
  · simp only [List.length_cons] at single
    omega

/-! ## All declarations of a source -/

/--
Parameters stand at their own names, one after the other.  So do the
declarations of a statement, unless they are several without annotations:
these all stand where the statement begins, at the first of their names.
-/
theorem declarations_stand_at_names
    (parsed : parse source = .ok function) :
    OwnPlaces source.toList function.params ∧
      ∀ statement ∈ function.body,
        (OwnPlaces source.toList statement.decls ↔
          ¬ DeclaredTogether statement.decls) ∧
        (DeclaredTogether statement.decls →
          SharedPlace source.toList statement.pos statement.decls) := by
  rcases exists_reads_of_parse parsed with ⟨wellFormed, -⟩
  refine ⟨ownPlaces_params parsed, fun statement member => ?_⟩
  have isStmt := wellFormed.body statement member
  cases statement with
  | decl pos decls value =>
      rcases isStmt with ⟨nonempty, -, ⟨groups, -⟩ | ⟨inferred, -⟩⟩
      · have separate : ¬ DeclaredTogether decls := by
          rintro ⟨-, unannotated⟩
          rcases List.exists_mem_of_ne_nil decls nonempty with ⟨decl, listed⟩
          rcases groups decl listed with ⟨-, type, annotated, -⟩
          rw [unannotated decl listed] at annotated
          cases annotated
        have own :=
          ownPlaces_of_declared_groups parsed member nonempty groups
        exact ⟨iff_of_true own separate, fun together =>
          (separate together).elim⟩
      · have place := sharedPlace_of_inferred parsed member nonempty inferred
        refine ⟨⟨?_, ?_⟩, fun _ => place⟩
        · rintro own ⟨several, -⟩
          exact place.not_ownPlaces several own
        · intro separate
          have unannotated : ∀ decl ∈ decls, decl.type = none :=
            fun decl listed => (inferred decl listed).2.2
          have single : decls.length < 2 := by
            apply Nat.lt_of_not_le
            exact fun several => separate ⟨several, unannotated⟩
          exact place.ownPlaces single
  | _ =>
      constructor
      · exact iff_of_true (ownPlaces_nil _) (by simp [DeclaredTogether, Stmt.decls])
      · rintro ⟨several, -⟩
        simp [Stmt.decls] at several

/-- Groups over two lines, and two names without annotations. -/
def mixedDeclarations : String :=
  "fn f(a: int,\n b: int) \x7b c: int, d: int x, y := a, b \x7d"

/-- Groups stand at their own names, and the two names share a place. -/
theorem declarations_stand_at_names_mixed :
    ∃ (function : Function) (groups together : Stmt),
      parse mixedDeclarations = .ok function ∧
        function.body = [groups, together] ∧
        OwnPlaces mixedDeclarations.toList function.params ∧
        OwnPlaces mixedDeclarations.toList groups.decls ∧
        ¬ OwnPlaces mixedDeclarations.toList together.decls ∧
        SharedPlace mixedDeclarations.toList together.pos together.decls := by
  have parsed :
      parse mixedDeclarations =
        .ok ⟨⟨1, 1⟩, "f",
          [ ⟨⟨1, 6⟩, ["a"], some ⟨⟨1, 9⟩, "int"⟩⟩,
            ⟨⟨2, 2⟩, ["b"], some ⟨⟨2, 5⟩, "int"⟩⟩ ],
          [],
          [ .decl ⟨2, 12⟩
              [ ⟨⟨2, 12⟩, ["c"], some ⟨⟨2, 15⟩, "int"⟩⟩,
                ⟨⟨2, 20⟩, ["d"], some ⟨⟨2, 23⟩, "int"⟩⟩ ]
              none,
            .decl ⟨2, 27⟩
              [⟨⟨2, 27⟩, ["x"], none⟩, ⟨⟨2, 27⟩, ["y"], none⟩]
              (some (.tuple ⟨2, 35⟩
                [.var ⟨2, 35⟩ "a", .var ⟨2, 38⟩ "b"])) ]⟩ := by
    decide +kernel
  rcases declarations_stand_at_names parsed with ⟨params, body⟩
  have groups := body _ (.head _)
  have together := body _ (.tail _ (.head _))
  refine ⟨_, _, _, parsed, rfl, params, groups.1.2 ?_, ?_, together.2 ?_⟩
  · simp [DeclaredTogether, Stmt.decls]
  · rw [together.1]
    simp [DeclaredTogether, Stmt.decls]
  · simp [DeclaredTogether, Stmt.decls]

/-- The second name is declared at the place of the first. -/
theorem second_name_stands_at_first :
    parse "fn f() \x7b a, b := 1, 2 \x7d" =
        .ok ⟨⟨1, 1⟩, "f", [], [],
          [.decl ⟨1, 10⟩ [⟨⟨1, 10⟩, ["a"], none⟩, ⟨⟨1, 10⟩, ["b"], none⟩]
            (some (.tuple ⟨1, 18⟩
              [.intLit ⟨1, 18⟩ "1", .intLit ⟨1, 21⟩ "2"]))]⟩ ∧
      WordAt "fn f() \x7b a, b := 1, 2 \x7d".toList ⟨1, 13⟩ "b" ∧
      ¬ WordAt "fn f() \x7b a, b := 1, 2 \x7d".toList ⟨1, 10⟩ "b" ∧
      ¬ Pos.Before ⟨1, 10⟩ ⟨1, 10⟩ ∧
      ¬ ∀ source function, parse source = .ok function →
        ∀ statement ∈ function.body,
          OwnPlaces source.toList statement.decls := by
  have parsed :
      parse "fn f() \x7b a, b := 1, 2 \x7d" =
        .ok ⟨⟨1, 1⟩, "f", [], [],
          [.decl ⟨1, 10⟩ [⟨⟨1, 10⟩, ["a"], none⟩, ⟨⟨1, 10⟩, ["b"], none⟩]
            (some (.tuple ⟨1, 18⟩
              [.intLit ⟨1, 18⟩ "1", .intLit ⟨1, 21⟩ "2"]))]⟩ := by
    decide +kernel
  have elsewhere :
      ¬ WordAt "fn f() \x7b a, b := 1, 2 \x7d".toList ⟨1, 10⟩ "b" := by
    decide +kernel
  refine ⟨parsed, by decide +kernel, elsewhere, by decide, ?_⟩
  intro all
  rcases (all _ _ parsed _ (.head _)).own _ (.tail _ (.head _)) with
    ⟨name, first, here⟩
  cases first
  exact elsewhere here

end

end Sprig
