import Sprig.Proofs.Typing.Charge

/-!
# Where the nodes stand that errors are charged to

The nodes that an error of a source can be charged to are annotations,
variables and statements.  Each of them begins with a token of the function:
an annotation with the name of its type, a variable with its name and a
statement with its first token.  `Begins` says this of a list of lexemes, and
it is kept when the list is made part of a longer one.

A source is a layout of the tokens of its function, so each of these nodes is
positioned at an offset where its token stands (`exists_tokenAt`).
-/

namespace Sprig

open Sprig.Text

/-- A node at a position begins with a token. -/
def Begins (lexemes : List Lexeme) (pos : Pos) (token : Token) : Prop :=
  ∃ lexeme ∈ lexemes, pos ∈ lexeme.nodes ∧ lexeme.token = token

namespace Begins

variable {pos : Pos}
variable {token : Token}
variable {first second lexemes : List Lexeme}

theorem single (token : Token) (pos : Pos) :
    Begins [⟨token, [pos]⟩] pos token :=
  ⟨_, .head _, .head _, rfl⟩

theorem mono
    (begins : Begins first pos token)
    (subset : first ⊆ second) :
    Begins second pos token := by
  rcases begins with ⟨lexeme, member, node, isToken⟩
  exact ⟨lexeme, subset member, node, isToken⟩

theorem ne_nil (begins : Begins lexemes pos token) : lexemes ≠ [] := by
  rcases begins with ⟨lexeme, member, -⟩
  exact List.ne_nil_of_mem member

theorem beginning
    (begins : Begins lexemes pos token)
    (nodes : List Pos) :
    Begins (beginning nodes lexemes) pos token := by
  rcases begins with ⟨lexeme, member, node, rfl⟩
  cases lexemes with
  | nil =>
      cases member
  | cons head others =>
      rcases List.mem_cons.1 member with rfl | member
      · exact ⟨_, .head _, List.mem_append_right _ node, rfl⟩
      · exact ⟨lexeme, .tail _ member, node, rfl⟩

theorem commaBetween
    {α : Type}
    {spelling : α → List Lexeme}
    {items : List α}
    {item : α}
    (member : item ∈ items)
    (begins : Begins (spelling item) pos token) :
    Begins (commaBetween (items.map spelling)) pos token := by
  cases items with
  | nil =>
      cases member
  | cons first others =>
      rw [List.map_cons, Sprig.commaBetween]
      rcases List.mem_cons.1 member with rfl | member
      · exact begins.mono (List.subset_append_left _ _)
      · refine begins.mono fun lexeme inside => List.mem_append_right _ ?_
        exact List.mem_flatMap.2
          ⟨spelling item, List.mem_map_of_mem member, .tail _ inside⟩

end Begins

theorem beginning_ne_nil
    {lexemes : List Lexeme}
    (nonempty : lexemes ≠ [])
    (nodes : List Pos) :
    beginning nodes lexemes ≠ [] := by
  cases lexemes with
  | nil =>
      exact (nonempty rfl).elim
  | cons first others =>
      exact List.cons_ne_nil _ _

/-- A list of lexemes begins with a token at which a node stands. -/
def BeginsFirst (lexemes : List Lexeme) (pos : Pos) (token : Token) : Prop :=
  lexemes.head?.map Lexeme.token = some token ∧ Begins lexemes pos token

theorem exists_beginsFirst
    {lexemes : List Lexeme}
    (nonempty : lexemes ≠ [])
    (pos : Pos) :
    ∃ token, BeginsFirst (beginning [pos] lexemes) pos token := by
  cases lexemes with
  | nil =>
      exact (nonempty rfl).elim
  | cons first others =>
      exact ⟨first.token, rfl, _, .head _, .head _, rfl⟩

/-! ## The nodes of a tree -/

theorem Decl.begins_annotation
    {decl : Decl}
    {type : TypeRef}
    (annotated : type ∈ decl.type) :
    Begins decl.spelling type.pos (.word type.name) := by
  rw [Decl.spelling, Option.mem_def.1 annotated]
  refine Begins.beginning (.mono (.single _ _) ?_) _
  exact fun _ member => List.mem_append_right _ (.tail _ member)

theorem Expr.begins_variable
    {value : Expr}
    {pos : Pos}
    {name : String}
    (inside : .var pos name ∈ value.components) :
    Begins value.spelling pos (.word name) := by
  cases value with
  | intLit _ _ =>
      cases List.mem_singleton.1 inside
  | var _ _ =>
      cases List.mem_singleton.1 inside
      exact .single _ _
  | tuple _ elements =>
      exact .beginning (.commaBetween inside (.single _ _)) _
  | bare _ =>
      cases List.mem_singleton.1 inside

namespace Stmt

variable {statement : Stmt}

theorem begins_value
    {value : Expr}
    {pos : Pos}
    {token : Token}
    (given : value ∈ statement.value?)
    (begins : Begins value.spelling pos token) :
    Begins statement.spelling pos token := by
  cases statement with
  | assign stmtPos names value =>
      cases given
      refine Begins.beginning (begins.mono ?_) _
      exact fun _ member => List.mem_append_right _ (.tail _ member)
  | decl stmtPos decls initial =>
      rcases Option.mem_def.1 given with rfl
      refine Begins.beginning (begins.mono ?_) _
      exact fun _ member => List.mem_append_right _ (.tail _ member)
  | ret stmtPos value =>
      cases given
      exact begins.mono (List.subset_cons_self _ _)
  | bare stmtPos =>
      cases given

theorem begins_annotation
    {type : TypeRef}
    (wellFormed : statement.WellFormed)
    (annotated : type ∈ statement.annotations) :
    Begins statement.spelling type.pos (.word type.name) := by
  cases statement with
  | decl pos decls value =>
      rcases List.mem_filterMap.1 annotated with ⟨decl, member, annotated⟩
      rcases wellFormed with ⟨nonempty, -, ⟨groups, -⟩ | ⟨inferred, -⟩⟩
      · rw [Stmt.spelling, spellDecls_of_groups nonempty groups]
        refine Begins.beginning (.mono ?_ (List.subset_append_left _ _)) _
        exact .commaBetween member (Decl.begins_annotation annotated)
      · rw [(inferred decl member).2.2] at annotated
        cases annotated
  | _ => cases annotated

theorem WellFormed.isName_of_target
    {name : String}
    (wellFormed : statement.WellFormed)
    (assigned : name ∈ statement.targets) :
    IsName name := by
  cases statement with
  | assign pos names value => exact wellFormed.1.2 name assigned
  | _ => cases assigned

theorem spellDecls_ne_nil
    {decls : List Decl}
    {value : Option Expr}
    (nonempty : decls ≠ [])
    (oneWay : DeclaresOneWay decls value) :
    spellDecls decls ≠ [] := by
  rcases oneWay with ⟨groups, -⟩ | ⟨inferred, -⟩
  · rcases List.exists_mem_of_ne_nil decls nonempty with ⟨decl, member⟩
    rcases groups decl member with ⟨-, type, annotated, -⟩
    rw [spellDecls_of_groups nonempty groups]
    exact (Begins.commaBetween member
      (Decl.begins_annotation annotated)).ne_nil
  · rw [spellDecls_of_inferred inferred]
    exact beginning_ne_nil (by simp) _

theorem exists_beginsFirst
    (wellFormed : statement.WellFormed) :
    ∃ token, BeginsFirst statement.spelling statement.pos token := by
  cases statement with
  | assign pos names value =>
      exact Sprig.exists_beginsFirst (by simp) pos
  | decl pos decls value =>
      rcases wellFormed with ⟨nonempty, -, oneWay⟩
      have spelled := spellDecls_ne_nil nonempty oneWay
      exact Sprig.exists_beginsFirst (by simp [spelled]) pos
  | ret pos value =>
      exact ⟨_, rfl, _, .head _, .head _, rfl⟩
  | bare pos =>
      exact wellFormed.elim

end Stmt

namespace Function

variable {function : Function}

theorem begins_inBody
    {statement : Stmt}
    {pos : Pos}
    {token : Token}
    (member : statement ∈ function.body)
    (begins : Begins statement.spelling pos token) :
    Begins function.spelling pos token := by
  refine begins.mono fun lexeme inside => ?_
  have listed : lexeme ∈ function.body.flatMap Stmt.spelling :=
    List.mem_flatMap.2 ⟨statement, member, inside⟩
  simp [Function.spelling, listed]

theorem begins_annotation
    {type : TypeRef}
    (wellFormed : function.WellFormed)
    (annotated : type ∈ function.annotations) :
    Begins function.spelling type.pos (.word type.name) := by
  rw [annotations, List.mem_append, List.mem_append] at annotated
  rcases annotated with (inParams | inRets) | inBody
  · rcases List.mem_filterMap.1 inParams with ⟨decl, member, annotated⟩
    have begins := Begins.commaBetween member
      (Decl.begins_annotation annotated)
    refine begins.mono fun lexeme inside => ?_
    simp [Function.spelling, inside]
  · have begins : Begins (spellRets function.rets) type.pos
        (.word type.name) := by
      cases types : function.rets with
      | nil =>
          rw [types] at inRets
          cases inRets
      | cons first others =>
          rw [types] at inRets
          have listed : Begins
              (commaBetween ((first :: others).map TypeRef.spelling))
              type.pos (.word type.name) :=
            .commaBetween inRets (.single _ _)
          exact listed.mono (List.subset_cons_self _ _)
    refine begins.mono fun lexeme inside => ?_
    simp [Function.spelling, inside]
  · rcases List.mem_flatMap.1 inBody with ⟨statement, member, annotated⟩
    exact begins_inBody member (Stmt.begins_annotation
      (wellFormed.body statement member) annotated)

end Function

/-! ## The offsets of tokens -/

/-- A token of a function stands at an offset of its source. -/
def TokenAt
    (source : String)
    (function : Function)
    (offset : Nat)
    (token : Token) : Prop :=
  ∃ layout : Layout,
    layout.text = source.toList ∧
      layout.tokens = function.tokens ∧
        (offset, token) ∈ layout.offsets.zip function.tokens

theorem TokenAt.solidAt
    {source : String}
    {function : Function}
    {offset : Nat}
    {token : Token}
    (stands : TokenAt source function offset token)
    (wellFormed : function.WellFormed) :
    SolidAt source.toList offset := by
  rcases stands with ⟨layout, text, tokens, placed⟩
  have covers := layout.covers (tokens ▸ wellFormed.solid)
  rw [text, tokens] at covers
  exact covers.solidAt placed

/-- A node of a function is positioned where its token stands. -/
theorem exists_tokenAt
    {source : String}
    {function : Function}
    {pos : Pos}
    {token : Token}
    (parsed : parse source = .ok function)
    (begins : Begins function.spelling pos token) :
    ∃ offset,
      TokenAt source function offset token ∧
        pos = posAt source.toList offset := by
  rcases exists_layout_of_parse parsed with
    ⟨wellFormed, layout, text, tokens, placed⟩
  have covers := layout.covers (tokens ▸ wellFormed.solid)
  rcases begins with ⟨lexeme, member, node, rfl⟩
  have lengths : function.spelling.length ≤ layout.offsets.length := by
    rw [covers.length_eq, tokens, Function.tokens, List.length_map]
  rw [← List.map_snd_zip lengths] at member
  rcases List.mem_map.1 member with ⟨⟨offset, _⟩, inZip, rfl⟩
  refine ⟨offset, ⟨layout, text, tokens, ?_⟩, placed _ inZip pos node⟩
  rw [Function.tokens, List.zip_map_right]
  exact List.mem_map.2 ⟨_, inZip, rfl⟩

end Sprig
