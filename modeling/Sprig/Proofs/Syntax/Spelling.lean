import Sprig.Proofs.Syntax.WellFormed
import Sprig.Proofs.Text.Disjoint

/-!
# How a tree is spelled

A tree is written as a list of tokens, which `Function.tokens` reads off it:

    fn name ( groups ) [-> types] { statements }

A lexeme is a token together with the positions of the nodes whose text it
begins.  Several nodes may begin at one token: a tuple begins with its first
element, a declaration statement with its first group, and a declaration
without annotations has all its `Decl`s begin at its first name.  The
spelling of a tree therefore carries everything that a tree says, and a text
spells it when the tokens stand there in order, each at the positions that
its nodes claim.
-/

namespace Sprig

open Sprig.Text

/-- What a token is made of, which decides where it ends. -/
inductive TokenKind where
  | word
  | number
  | symbol
  deriving DecidableEq, Repr

/-- A token as it is written. -/
structure Token where
  kind : TokenKind
  text : List Char
  deriving DecidableEq, Repr

/-- A token with the positions of the nodes that begin with it. -/
structure Lexeme where
  token : Token
  nodes : List Pos
  deriving DecidableEq, Repr

namespace Token

/-- A name or a keyword. -/
def word (name : String) : Token :=
  ⟨.word, name.toList⟩

/-- A number. -/
def number (text : String) : Token :=
  ⟨.number, text.toList⟩

/-- A mark that is not made of letters. -/
def symbol (mark : String) : Token :=
  ⟨.symbol, mark.toList⟩

/-- A token that begins no node. -/
def bare (token : Token) : Lexeme :=
  ⟨token, []⟩

/--
At least one character, and none that could separate tokens; a symbol does
not begin like a word.
-/
def Solid (token : Token) : Prop :=
  token.text ≠ [] ∧ (∀ char ∈ token.text, isBlank char = false) ∧
    (token.kind = .symbol → token.text.head?.any isAlphanumeric = false)

instance : DecidablePred Solid := fun token =>
  have : Decidable (∀ char ∈ token.text, isBlank char = false) :=
    List.decidableBAll _ _
  inferInstanceAs (Decidable (_ ∧ _ ∧ _))

/-- A text that does not continue a token that stands in front of it. -/
def Stops (token : Token) (rest : List Char) : Prop :=
  match token.kind with
  | .word => rest.head?.any isAlphanumeric = false
  | .number => rest.head?.any isNumeric = false
  | .symbol => True

end Token

/-! ## Spelling the parts of a tree -/

/-- More nodes begin with the first token. -/
def beginning (nodes : List Pos) : List Lexeme → List Lexeme
  | [] => []
  | first :: others => ⟨first.token, nodes ++ first.nodes⟩ :: others

/-- Items that each follow a comma. -/
def commaBefore (items : List (List Lexeme)) : List Lexeme :=
  items.flatMap fun item => (Token.symbol ",").bare :: item

/-- Items with a comma between each and the next. -/
def commaBetween : List (List Lexeme) → List Lexeme
  | [] => []
  | first :: others => first ++ commaBefore others

/-- Names with commas between them. -/
def spellNames (names : List String) : List Lexeme :=
  commaBetween (names.map fun name => [(Token.word name).bare])

/-- The name of a type. -/
def TypeRef.spelling (type : TypeRef) : List Lexeme :=
  [⟨.word type.name, [type.pos]⟩]

/-- A colon and a type. -/
def spellAnnotation : Option TypeRef → List Lexeme
  | none => []
  | some type => (Token.symbol ":").bare :: type.spelling

/-- Names with their annotation. -/
def Decl.spelling (decl : Decl) : List Lexeme :=
  beginning [decl.pos] (spellNames decl.idents ++ spellAnnotation decl.type)

/-- A single number or name; nothing else may stand in a tuple. -/
def Expr.atomSpelling : Expr → List Lexeme
  | .intLit pos text => [⟨.number text, [pos]⟩]
  | .var pos name => [⟨.word name, [pos]⟩]
  | .tuple .. => []
  | .bare _ => []

/-- A value, which is an atom or a tuple of atoms. -/
def Expr.spelling : Expr → List Lexeme
  | .tuple pos elements =>
      beginning [pos] (commaBetween (elements.map Expr.atomSpelling))
  | single => single.atomSpelling

/-- An equals sign and a value. -/
def spellInitializer : Option Expr → List Lexeme
  | none => []
  | some value => (Token.symbol "=").bare :: value.spelling

/--
Declarations up to their initializer.  Without annotations they are a single
list of names and a colon, and all of them begin with the first name.
-/
def spellDecls (decls : List Decl) : List Lexeme :=
  if decls.all fun decl => decl.type.isNone then
    beginning (decls.map Decl.pos)
      (spellNames (declaredNames decls) ++ [(Token.symbol ":").bare])
  else
    commaBetween (decls.map Decl.spelling)

/-- A statement. -/
def Stmt.spelling : Stmt → List Lexeme
  | .assign pos names value =>
      beginning [pos]
        (spellNames names ++ (Token.symbol "=").bare :: value.spelling)
  | .decl pos decls value =>
      beginning [pos] (spellDecls decls ++ spellInitializer value)
  | .ret pos value => ⟨.word "return", [pos]⟩ :: value.spelling
  | .bare _ => []

/-- An arrow and types, if there are any. -/
def spellRets : List TypeRef → List Lexeme
  | [] => []
  | rets =>
      (Token.symbol "->").bare :: commaBetween (rets.map TypeRef.spelling)

/-- A function. -/
def Function.spelling (function : Function) : List Lexeme :=
  ⟨.word "fn", [function.pos]⟩ ::
    (Token.word function.name).bare ::
    (Token.symbol "(").bare ::
    (commaBetween (function.params.map Decl.spelling) ++
      (Token.symbol ")").bare ::
      (spellRets function.rets ++
        (Token.symbol "\x7b").bare ::
        (function.body.flatMap Stmt.spelling ++
          [(Token.symbol "\x7d").bare])))

/-- The tokens of a function, in order. -/
def Function.tokens (function : Function) : List Token :=
  function.spelling.map Lexeme.token

/-! ## Forms of the optional parts -/

theorem spellDecls_of_groups
    {decls : List Decl}
    (nonempty : decls ≠ [])
    (groups : ∀ decl ∈ decls, decl.IsGroup) :
    spellDecls decls = commaBetween (decls.map Decl.spelling) := by
  cases decls with
  | nil =>
      exact (nonempty rfl).elim
  | cons first others =>
      rcases groups first (.head _) with ⟨-, type, annotated, -⟩
      rw [Option.mem_def] at annotated
      simp [spellDecls, annotated]

theorem spellDecls_of_inferred
    {decls : List Decl}
    (inferred : ∀ decl ∈ decls, decl.IsInferred) :
    spellDecls decls =
      beginning (decls.map Decl.pos)
        (spellNames (declaredNames decls) ++ [(Token.symbol ":").bare]) := by
  have unannotated : decls.all (fun decl => decl.type.isNone) = true := by
    rw [List.all_eq_true]
    intro decl member
    rw [(inferred decl member).2.2]
    rfl
  rw [spellDecls, if_pos unannotated]

theorem spellRets_cons (first : TypeRef) (others : List TypeRef) :
    spellRets (first :: others) =
      (Token.symbol "->").bare ::
        commaBetween ((first :: others).map TypeRef.spelling) := rfl

/-! ## Spellings as lists of tokens -/

@[simp]
theorem token_bare (token : Token) : token.bare.token = token := rfl

@[simp]
theorem nodes_bare (token : Token) : token.bare.nodes = [] := rfl

@[simp]
theorem map_token_beginning (nodes : List Pos) (lexemes : List Lexeme) :
    (beginning nodes lexemes).map Lexeme.token =
      lexemes.map Lexeme.token := by
  cases lexemes with
  | nil =>
      rfl
  | cons first others =>
      rfl

theorem commaBefore_map
    {α : Type}
    (spelling : α → List Lexeme)
    (items : List α) :
    commaBefore (items.map spelling) =
      items.flatMap fun item =>
        (Token.symbol ",").bare :: spelling item := by
  rw [commaBefore, List.flatMap_map]

/-- The tokens of a first item and of others that each follow a comma. -/
theorem map_token_commaBetween
    {α : Type}
    (spelling : α → List Lexeme)
    (first : α)
    (others : List α) :
    (commaBetween ((first :: others).map spelling)).map Lexeme.token =
      (spelling first).map Lexeme.token ++
        others.flatMap fun item =>
          Token.symbol "," :: (spelling item).map Lexeme.token := by
  rw [List.map_cons, commaBetween, commaBefore_map, List.map_append,
    List.map_flatMap]
  rfl

theorem map_token_spellNames (first : String) (others : List String) :
    (spellNames (first :: others)).map Lexeme.token =
      .word first ::
        others.flatMap fun name => [.symbol ",", .word name] :=
  map_token_commaBetween _ first others

/-! ## Positions are not written -/

/-- Items with the same tokens are the same tokens between commas. -/
theorem map_token_commaBetween_congr
    {α : Type}
    {spelling other : α → List Lexeme}
    (same : ∀ item,
      (spelling item).map Lexeme.token = (other item).map Lexeme.token)
    (items : List α) :
    (commaBetween (items.map spelling)).map Lexeme.token =
      (commaBetween (items.map other)).map Lexeme.token := by
  cases items with
  | nil =>
      rfl
  | cons first others =>
      rw [map_token_commaBetween, map_token_commaBetween, same]
      simp only [same]

theorem tokens_unplaced_typeRef (type : TypeRef) :
    type.unplaced.spelling.map Lexeme.token =
      type.spelling.map Lexeme.token := rfl

theorem tokens_unplaced_decl (decl : Decl) :
    decl.unplaced.spelling.map Lexeme.token =
      decl.spelling.map Lexeme.token := by
  rcases decl with ⟨pos, names, type⟩
  cases type with
  | none =>
      simp [Decl.spelling, Decl.unplaced]
  | some type =>
      simp [Decl.spelling, Decl.unplaced, spellAnnotation, TypeRef.spelling,
        TypeRef.unplaced]

theorem tokens_unplaced_atom (value : Expr) :
    value.unplaced.atomSpelling.map Lexeme.token =
      value.atomSpelling.map Lexeme.token := by
  cases value with
  | intLit pos text =>
      rfl
  | var pos name =>
      rfl
  | tuple pos elements =>
      rfl
  | bare pos =>
      rfl

theorem tokens_unplaced_expr (value : Expr) :
    value.unplaced.spelling.map Lexeme.token =
      value.spelling.map Lexeme.token := by
  cases value with
  | intLit pos text =>
      rfl
  | var pos name =>
      rfl
  | tuple pos elements =>
      rw [Expr.unplaced, Expr.listUnplaced_eq_map, Expr.spelling,
        Expr.spelling, map_token_beginning, map_token_beginning, List.map_map]
      exact map_token_commaBetween_congr tokens_unplaced_atom elements
  | bare pos =>
      rfl

theorem tokens_unplaced_initializer (value : Option Expr) :
    (spellInitializer (value.map Expr.unplaced)).map Lexeme.token =
      (spellInitializer value).map Lexeme.token := by
  cases value with
  | none =>
      rfl
  | some initial =>
      exact congrArg (Token.symbol "=" :: ·) (tokens_unplaced_expr initial)

theorem tokens_unplaced_decls (decls : List Decl) :
    (spellDecls (decls.map Decl.unplaced)).map Lexeme.token =
      (spellDecls decls).map Lexeme.token := by
  have unannotated : (decls.map Decl.unplaced).all (·.type.isNone) =
      decls.all (·.type.isNone) := by
    rw [List.all_map]
    congr 1
    funext decl
    exact Option.isNone_map
  have names : declaredNames (decls.map Decl.unplaced) =
      declaredNames decls := by
    rw [declaredNames, List.flatMap_map]
    rfl
  rw [spellDecls, spellDecls, unannotated, names]
  split
  · rw [map_token_beginning, map_token_beginning]
  · rw [List.map_map]
    exact map_token_commaBetween_congr tokens_unplaced_decl decls

theorem tokens_unplaced_stmt (stmt : Stmt) :
    stmt.unplaced.spelling.map Lexeme.token =
      stmt.spelling.map Lexeme.token := by
  cases stmt with
  | assign pos names value =>
      simp only [Stmt.unplaced, Stmt.spelling, map_token_beginning,
        List.map_append, List.map_cons, tokens_unplaced_expr]
  | decl pos decls value =>
      simp only [Stmt.unplaced, Stmt.spelling, map_token_beginning,
        List.map_append, tokens_unplaced_decls, tokens_unplaced_initializer]
  | ret pos value =>
      exact congrArg (Token.word "return" :: ·) (tokens_unplaced_expr value)
  | bare pos =>
      rfl

/-- The tokens of a function say nothing about positions. -/
theorem tokens_unplaced (function : Function) :
    function.unplaced.tokens = function.tokens := by
  have params : (commaBetween
      ((function.params.map Decl.unplaced).map Decl.spelling)).map
        Lexeme.token =
      (commaBetween (function.params.map Decl.spelling)).map
        Lexeme.token := by
    rw [List.map_map]
    exact map_token_commaBetween_congr tokens_unplaced_decl _
  have rets : (spellRets (function.rets.map TypeRef.unplaced)).map
      Lexeme.token = (spellRets function.rets).map Lexeme.token := by
    cases function.rets with
    | nil =>
        rfl
    | cons first others =>
        have types : (commaBetween ((first :: others).map
            (TypeRef.spelling ∘ TypeRef.unplaced))).map Lexeme.token =
              (commaBetween ((first :: others).map
                TypeRef.spelling)).map Lexeme.token :=
          map_token_commaBetween_congr tokens_unplaced_typeRef _
        rw [← List.map_map] at types
        exact congrArg (Token.symbol "->" :: ·) types
  have body : ((function.body.map Stmt.unplaced).flatMap Stmt.spelling).map
      Lexeme.token = (function.body.flatMap Stmt.spelling).map
        Lexeme.token := by
    rw [List.flatMap_map, List.map_flatMap, List.map_flatMap]
    simp only [tokens_unplaced_stmt]
  simp only [Function.tokens, Function.spelling, Function.unplaced,
    List.map_cons, List.map_append, params, rets, body]

/-! ## No token holds a blank -/

theorem IsName.solid {name : String} (isName : IsName name) :
    (Token.word name).Solid := by
  rcases isName with ⟨begins, continues⟩
  refine ⟨?_, ?_, ?_⟩
  · intro empty
    simp [show name.toList = [] from empty] at begins
  · intro char member
    exact isBlank_eq_false_of_isAlphanumeric
      (List.all_eq_true.1 continues char member)
  · intro isSymbol
    cases isSymbol

theorem IsNumber.solid {text : String} (isNumber : IsNumber text) :
    (Token.number text).Solid := by
  refine ⟨?_, ?_, ?_⟩
  · exact isNumber.1
  · intro char member
    exact isBlank_eq_false_of_isAlphanumeric
      (isAlphanumeric_of_isNumeric
        (List.all_eq_true.1 isNumber.2 char member))
  · intro isSymbol
    cases isSymbol

/-- Every token of a list of lexemes is solid. -/
def AllSolid (lexemes : List Lexeme) : Prop :=
  ∀ token ∈ lexemes.map Lexeme.token, token.Solid

namespace AllSolid

theorem nil : AllSolid [] :=
  List.forall_mem_nil _

theorem cons
    {lexeme : Lexeme}
    {lexemes : List Lexeme}
    (head : lexeme.token.Solid)
    (tail : AllSolid lexemes) :
    AllSolid (lexeme :: lexemes) :=
  List.forall_mem_cons.2 ⟨head, tail⟩

theorem append
    {first second : List Lexeme}
    (left : AllSolid first)
    (right : AllSolid second) :
    AllSolid (first ++ second) := by
  rw [AllSolid, List.map_append]
  exact List.forall_mem_append.2 ⟨left, right⟩

theorem beginning
    {lexemes : List Lexeme}
    (solid : AllSolid lexemes)
    (nodes : List Pos) :
    AllSolid (beginning nodes lexemes) := by
  rw [AllSolid, map_token_beginning]
  exact solid

theorem flatMap
    {α : Type}
    {spelling : α → List Lexeme}
    {items : List α}
    (solid : ∀ item ∈ items, AllSolid (spelling item)) :
    AllSolid (items.flatMap spelling) := by
  induction items with
  | nil =>
      exact nil
  | cons first others ih =>
      rcases List.forall_mem_cons.1 solid with ⟨head, tail⟩
      exact head.append (ih tail)

theorem commaBefore
    {α : Type}
    {spelling : α → List Lexeme}
    {items : List α}
    (solid : ∀ item ∈ items, AllSolid (spelling item)) :
    AllSolid (commaBefore (items.map spelling)) := by
  rw [commaBefore_map]
  apply flatMap
  intro item member
  exact cons (by decide) (solid item member)

theorem commaBetween
    {α : Type}
    {spelling : α → List Lexeme}
    {items : List α}
    (solid : ∀ item ∈ items, AllSolid (spelling item)) :
    AllSolid (commaBetween (items.map spelling)) := by
  cases items with
  | nil =>
      exact nil
  | cons first others =>
      rcases List.forall_mem_cons.1 solid with ⟨head, tail⟩
      exact head.append (commaBefore tail)

theorem spellNames
    {names : List String}
    (isName : ∀ name ∈ names, IsName name) :
    AllSolid (spellNames names) :=
  commaBetween fun name member => cons (isName name member).solid nil

end AllSolid

theorem allSolid_typeRef
    {type : TypeRef}
    (isName : IsName type.name) :
    AllSolid type.spelling :=
  .cons isName.solid .nil

theorem Decl.IsGroup.allSolid
    {decl : Decl}
    (isGroup : decl.IsGroup) :
    AllSolid decl.spelling := by
  rcases isGroup with ⟨isNames, type, annotated, isType⟩
  rw [Option.mem_def] at annotated
  rw [Decl.spelling, annotated]
  exact ((AllSolid.spellNames isNames.2).append
    (.cons (by decide) (allSolid_typeRef isType))).beginning _

theorem Expr.IsAtom.allSolid
    {value : Expr}
    (isAtom : value.IsAtom) :
    AllSolid value.atomSpelling := by
  cases value with
  | intLit pos text =>
      exact .cons (IsNumber.solid isAtom) .nil
  | var pos name =>
      exact .cons (IsName.solid isAtom.1) .nil
  | tuple pos elements =>
      exact isAtom.elim
  | bare pos =>
      exact isAtom.elim

theorem Expr.IsValue.allSolid
    {value : Expr}
    (isValue : value.IsValue) :
    AllSolid value.spelling := by
  cases value with
  | intLit pos text =>
      have isAtom : (Expr.intLit pos text).IsAtom := isValue
      exact isAtom.allSolid
  | var pos name =>
      have isAtom : (Expr.var pos name).IsAtom := isValue
      exact isAtom.allSolid
  | tuple pos elements =>
      exact (AllSolid.commaBetween fun element member =>
        (isValue.2 element member).allSolid).beginning _
  | bare pos =>
      exact isValue.elim

theorem allSolid_spellInitializer
    {value : Option Expr}
    (isValue : ∀ initial ∈ value, initial.IsValue) :
    AllSolid (spellInitializer value) := by
  cases value with
  | none =>
      exact .nil
  | some initial =>
      exact .cons (by decide) (isValue initial rfl).allSolid

theorem DeclaresOneWay.allSolid
    {decls : List Decl}
    {value : Option Expr}
    (nonempty : decls ≠ [])
    (oneWay : DeclaresOneWay decls value) :
    AllSolid (spellDecls decls ++ spellInitializer value) := by
  rcases oneWay with ⟨groups, isValue⟩ | ⟨inferred, initial, rfl, isValue⟩
  · rw [spellDecls_of_groups nonempty groups]
    exact (AllSolid.commaBetween fun decl member =>
      (groups decl member).allSolid).append
        (allSolid_spellInitializer isValue)
  · rw [spellDecls_of_inferred inferred]
    have names := isNameList_declaredNames nonempty
      fun decl member => (inferred decl member).2.1
    exact (((AllSolid.spellNames names.2).append
      (.cons (by decide) .nil)).beginning _).append
        (.cons (by decide) isValue.allSolid)

theorem Stmt.WellFormed.allSolid
    {stmt : Stmt}
    (wellFormed : stmt.WellFormed) :
    AllSolid stmt.spelling := by
  cases stmt with
  | assign pos names value =>
      rcases wellFormed with ⟨isNames, -, isValue⟩
      exact ((AllSolid.spellNames isNames.2).append
        (.cons (by decide) isValue.allSolid)).beginning _
  | decl pos decls value =>
      rcases wellFormed with ⟨nonempty, -, oneWay⟩
      exact (oneWay.allSolid nonempty).beginning _
  | ret pos value =>
      have solid : (Token.word "return").Solid := by decide
      have isValue : value.IsValue := wellFormed
      exact .cons solid isValue.allSolid
  | bare pos =>
      exact wellFormed.elim

/-- The tokens of a well-formed function hold no blanks and are not empty. -/
theorem Function.WellFormed.solid
    {function : Function}
    (wellFormed : function.WellFormed) :
    ∀ token ∈ function.tokens, token.Solid := by
  rcases wellFormed with ⟨isName, areGroups, areTypes, areStmts⟩
  have groups : AllSolid (commaBetween (function.params.map Decl.spelling)) :=
    .commaBetween fun decl member => (areGroups decl member).allSolid
  have rets : AllSolid (spellRets function.rets) := by
    cases types : function.rets with
    | nil =>
        exact .nil
    | cons first others =>
        rw [types] at areTypes
        exact .cons (by decide) (.commaBetween fun type member =>
          allSolid_typeRef (areTypes type member))
  have body : AllSolid (function.body.flatMap Stmt.spelling) :=
    .flatMap fun stmt member => (areStmts stmt member).allSolid
  have keyword : (Token.word "fn").Solid := by decide
  exact AllSolid.cons keyword (.cons isName.solid (.cons (by decide)
    (groups.append (.cons (by decide) (rets.append (.cons (by decide)
      (body.append (.cons (by decide) .nil))))))))

end Sprig
