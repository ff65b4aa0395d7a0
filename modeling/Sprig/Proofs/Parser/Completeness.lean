import Sprig.Proofs.Parser.Soundness
import Sprig.Proofs.Parser.Spelled

/-!
# Every layout parses

A text that spells the tokens of a well-formed function, with every word and
number ended by what follows it, parses to that function.  `Finds` states
this for one reader of the grammar: in front of the tokens of a tree and of
some later tokens, the reader gives the tree up to positions and leaves the
later tokens.

The later tokens matter to the readers that look for a comma, an equals sign
or a parenthesis before they stop.  A statement is followed by a word or by a
closing brace, so none of these can be mistaken for part of it.

The positions need no induction of their own.  What the parser gives is a
layout of its source, and a source has only one layout of given tokens.
-/

namespace Sprig

open Sprig.Text

/-! ## What cannot follow -/

/-- A symbol begins with its own first character and with no other. -/
theorem firstChar?_symbol_ne
    {mark : String}
    {first : Option Char}
    (other : mark.toList.head? ≠ first)
    (tokens : List Token) :
    firstChar? (.symbol mark :: tokens) ≠ first :=
  other

/-- The first of some tokens is a word or a number. -/
def BeginsWord (tokens : List Token) : Prop :=
  (firstChar? tokens).any isAlphanumeric = true

/-- A word or a number does not begin with the character of a symbol. -/
theorem BeginsWord.ne
    {tokens : List Token}
    (begins : BeginsWord tokens)
    {char : Char}
    (mark : isAlphanumeric char = false) :
    firstChar? tokens ≠ some char := by
  intro same
  rw [BeginsWord, same, Option.any_some, mark] at begins
  cases begins

theorem IsName.beginsWord
    {name : String}
    (isName : IsName name)
    (tokens : List Token) :
    BeginsWord (.word name :: tokens) := by
  rcases (Option.any_eq_true _ _).1 isName.1 with ⟨char, first, letter⟩
  exact (Option.any_eq_true _ _).2
    ⟨char, first, isAlphanumeric_of_isLetter letter⟩

theorem IsNumber.beginsWord
    {text : String}
    (isNumber : IsNumber text)
    (tokens : List Token) :
    BeginsWord (.number text :: tokens) := by
  rcases isNumber with ⟨nonempty, digits⟩
  rcases List.exists_cons_of_ne_nil nonempty with ⟨char, others, first⟩
  rw [first, List.all_cons, Bool.and_eq_true] at digits
  rw [BeginsWord, firstChar?_cons, Token.number, first]
  exact isAlphanumeric_of_isNumeric digits.1

theorem Expr.IsAtom.beginsWord
    {value : Expr}
    (isAtom : value.IsAtom)
    (tokens : List Token) :
    BeginsWord (value.atomSpelling.map Lexeme.token ++ tokens) := by
  cases value with
  | intLit pos text =>
      exact IsNumber.beginsWord isAtom tokens
  | var pos name =>
      exact IsName.beginsWord isAtom.1 tokens
  | tuple pos elements =>
      exact isAtom.elim
  | bare pos =>
      exact isAtom.elim

theorem Expr.IsValue.beginsWord
    {value : Expr}
    (isValue : value.IsValue)
    (tokens : List Token) :
    BeginsWord (value.spelling.map Lexeme.token ++ tokens) := by
  cases value with
  | intLit pos text =>
      exact IsNumber.beginsWord isValue tokens
  | var pos name =>
      exact IsName.beginsWord isValue.1 tokens
  | bare pos =>
      exact isValue.elim
  | tuple pos elements =>
      rcases isValue with ⟨atLeastTwo, areAtoms⟩
      rcases List.exists_cons_of_length_pos (Nat.lt_of_succ_lt atLeastTwo) with
        ⟨first, others, rfl⟩
      rw [Expr.spelling, map_token_beginning, map_token_commaBetween,
        List.append_assoc]
      exact (areAtoms first (.head _)).beginsWord _

theorem Decl.IsGroup.beginsWord
    {decl : Decl}
    (isGroup : decl.IsGroup)
    (tokens : List Token) :
    BeginsWord (decl.spelling.map Lexeme.token ++ tokens) := by
  rcases isGroup with ⟨⟨nonempty, areNames⟩, -⟩
  rcases List.exists_cons_of_ne_nil nonempty with ⟨first, others, names⟩
  rw [names] at areNames
  rw [Decl.spelling, map_token_beginning, List.map_append, names,
    map_token_spellNames]
  exact (areNames first (.head _)).beginsWord _

theorem Stmt.WellFormed.beginsWord
    {stmt : Stmt}
    (wellFormed : stmt.WellFormed)
    (tokens : List Token) :
    BeginsWord (stmt.spelling.map Lexeme.token ++ tokens) := by
  cases stmt with
  | assign pos names value =>
      rcases wellFormed with ⟨⟨nonempty, areNames⟩, -⟩
      rcases List.exists_cons_of_ne_nil nonempty with ⟨first, others, rfl⟩
      rw [Stmt.spelling, map_token_beginning, List.map_append,
        map_token_spellNames]
      exact (areNames first (.head _)).beginsWord _
  | decl pos decls value =>
      rcases wellFormed with ⟨nonempty, -, oneWay⟩
      rw [Stmt.spelling, map_token_beginning, List.map_append]
      rcases oneWay with ⟨groups, -⟩ | ⟨inferred, -⟩
      · rw [spellDecls_of_groups nonempty groups]
        rcases List.exists_cons_of_ne_nil nonempty with ⟨group, others, rfl⟩
        rw [map_token_commaBetween, List.append_assoc, List.append_assoc]
        exact (groups group (.head _)).beginsWord _
      · rcases
            isNameList_declaredNames nonempty
              fun decl member => (inferred decl member).2.1 with
          ⟨named, areNames⟩
        rcases List.exists_cons_of_ne_nil named with ⟨first, others, names⟩
        rw [names] at areNames
        rw [spellDecls_of_inferred inferred, map_token_beginning,
          List.map_append, names, map_token_spellNames]
        exact (areNames first (.head _)).beginsWord _
  | ret pos value =>
      have isName : IsName "return" := by decide
      exact isName.beginsWord _
  | bare pos =>
      exact wellFormed.elim

/-! ## Readers in front of their tokens -/

namespace Parser

variable {α β : Type}
variable {later : List Token}

/-- A reader gives what is expected in front of its tokens and leaves the rest. -/
def Finds
    (reader : Parser α)
    (forget : α → β)
    (expected : β)
    (tokens later : List Token) : Prop :=
  ∀ cursor : Cursor,
    Spelled (tokens ++ later) cursor.rest →
      ∃ result after,
        reader cursor = .ok result after ∧
          forget result = expected ∧ Spelled later after.rest

/-! ## Lists -/

/-- Items that are spelled by something are no more than their tokens. -/
theorem length_le_length_flatMap
    {spelling : α → List Token}
    {items : List α}
    (nonempty : ∀ value ∈ items, spelling value ≠ []) :
    items.length ≤ (items.flatMap spelling).length := by
  induction items with
  | nil =>
      exact Nat.zero_le _
  | cons value others ih =>
      rcases List.forall_mem_cons.1 nonempty with ⟨first, rest⟩
      have atLeast := List.length_pos_iff.2 first
      have further := ih rest
      rw [List.flatMap_cons, List.length_append, List.length_cons]
      omega

/-- A step that finds the items of a list one by one, and then its end. -/
theorem repeated_finds
    {step : Parser (Option α)}
    {forget : α → β}
    {spelling : α → List Token}
    {items : List α}
    {ending : List Token}
    (follow : List Token → Prop)
    (item : ∀ value ∈ items, ∀ rest, follow rest →
      Finds step (Option.map forget) (some (forget value))
        (spelling value) rest)
    (last : Finds step (Option.map forget) none ending later)
    (follows : ∀ value ∈ items, ∀ rest, follow (spelling value ++ rest))
    (ends : follow (ending ++ later))
    {rounds : Nat}
    (enough : items.length < rounds) :
    Finds (repeated step rounds) (List.map forget) (items.map forget)
      (items.flatMap spelling ++ ending) later := by
  induction items generalizing rounds with
  | nil =>
      rcases Nat.exists_eq_add_one_of_ne_zero (Nat.ne_of_gt enough) with
        ⟨rounds, rfl⟩
      intro cursor spelled
      rcases last cursor spelled with ⟨result, after, stepped, nothing, rest⟩
      rw [Option.map_eq_none_iff] at nothing
      subst nothing
      exact ⟨[], after, repeated_of_none stepped rounds, rfl, rest⟩
  | cons value others ih =>
      rcases
          Nat.exists_eq_add_one_of_ne_zero
            (Nat.ne_of_gt (Nat.zero_lt_of_lt enough)) with
        ⟨rounds, rfl⟩
      intro cursor spelled
      rw [List.flatMap_cons, List.append_assoc, List.append_assoc,
        ← List.append_assoc _ ending] at spelled
      have following : follow
          ((others.flatMap spelling ++ ending) ++ later) := by
        cases others with
        | nil =>
            exact ends
        | cons next further =>
            rw [List.flatMap_cons, List.append_assoc, List.append_assoc]
            exact follows next (.tail _ (.head _)) _
      rcases item value (.head _) _ following cursor spelled with
        ⟨result, middle, stepped, same, rest⟩
      rcases Option.map_eq_some_iff.1 same with ⟨found, rfl, sameValue⟩
      rcases
          ih (fun value member => item value (.tail _ member))
            (fun value member => follows value (.tail _ member))
            (Nat.lt_of_succ_lt_succ enough) middle rest with
        ⟨results, after, repeats, sameOthers, rest⟩
      refine ⟨found :: results, after, ?_, ?_, rest⟩
      · rw [repeated, bind_eq_of_ok stepped]
        exact bind_eq_of_ok repeats _
      · rw [List.map_cons, List.map_cons, sameValue, sameOthers]

/-- Items after commas, where no comma follows the last of them. -/
theorem afterCommas_finds
    {reader : Parser α}
    {forget : α → β}
    {spelling : α → List Token}
    {items : List α}
    (item : ∀ value ∈ items, ∀ rest,
      Finds reader forget (forget value) (spelling value) rest)
    (noComma : firstChar? later ≠ some ',') :
    Finds (afterCommas reader) (List.map forget) (items.map forget)
      (items.flatMap fun value => Token.symbol "," :: spelling value)
      later := by
  intro cursor spelled
  have enough : items.length < cursor.rest.length + 1 := by
    have tokens := spelled.length_le
    have items : items.length ≤ (items.flatMap fun value =>
        Token.symbol "," :: spelling value).length :=
      length_le_length_flatMap fun _ _ => List.cons_ne_nil _ _
    rw [List.length_append] at tokens
    omega
  rw [← List.append_nil (List.flatMap _ _)] at spelled
  refine repeated_finds (fun _ => True) ?_ ?_ ?_ trivial enough
    cursor spelled
  · intro value member rest _ cursor spelled
    rcases accept_spelled (.symbol ",") spelled rfl (by decide) with
      ⟨middle, accepted, spelled⟩
    rcases item value member rest middle spelled with
      ⟨result, after, read, same, spelled⟩
    refine ⟨some result, after, ?_, congrArg some same, spelled⟩
    rw [bind_eq_of_ok accepted]
    exact bind_eq_of_ok read _
  · intro cursor spelled
    have refused := accept_refused "," spelled (by decide) (Ne.symm noComma)
    exact ⟨none, _, bind_eq_of_ok refused _, rfl, spelled.skipBlanks⟩
  · exact fun _ _ _ => trivial

/-! ## Names, types and groups -/

theorem typeRef_finds
    {type : TypeRef}
    (isName : IsName type.name) :
    Finds typeRef TypeRef.unplaced type.unplaced
      (type.spelling.map Lexeme.token) later := by
  intro cursor spelled
  rcases ident_spelled "type" isName spelled.skipBlanks with ⟨after, read, rest⟩
  refine ⟨⟨cursor.skipBlanks.pos, type.name⟩, after, ?_, rfl, rest⟩
  rw [typeRef, bind_eq_of_ok (here_eq cursor)]
  exact bind_eq_of_ok read _

/-- The names that follow a first name, up to something that is no comma. -/
theorem idents_finds
    {others : List String}
    (first : String)
    (areNames : ∀ name ∈ others, IsName name)
    (noComma : firstChar? later ≠ some ',') :
    Finds (idents first) id (first :: others)
      (others.flatMap fun name => [.symbol ",", .word name]) later := by
  intro cursor spelled
  have item : ∀ name ∈ others, ∀ rest,
      Finds (ident "identifier") id (id name) [.word name] rest := by
    intro name member rest cursor spelled
    rcases ident_spelled "identifier" (areNames name member) spelled with
      ⟨after, read, rest⟩
    exact ⟨name, after, read, rfl, rest⟩
  rcases afterCommas_finds item noComma cursor spelled with
    ⟨names, after, read, same, rest⟩
  rw [List.map_id, List.map_id] at same
  subst same
  exact ⟨_, after, bind_eq_of_ok read _, rfl, rest⟩

theorem decl_finds
    {group : Decl}
    (isGroup : group.IsGroup) :
    Finds decl Decl.unplaced group.unplaced
      (group.spelling.map Lexeme.token) later := by
  intro cursor spelled
  rcases isGroup with ⟨⟨nonempty, areNames⟩, type, annotated, isType⟩
  rcases group with ⟨pos, names, annotation⟩
  rcases List.exists_cons_of_ne_nil nonempty with ⟨first, others, rfl⟩
  obtain rfl : annotation = some type := annotated
  rcases List.forall_mem_cons.1 areNames with ⟨isName, areNames⟩
  rw [Decl.spelling, map_token_beginning, List.map_append,
    map_token_spellNames, List.cons_append, List.cons_append,
    List.append_assoc] at spelled
  rcases ident_spelled "identifier" isName spelled.skipBlanks with
    ⟨firstEnd, readFirst, spelled⟩
  rcases
      idents_finds first areNames (firstChar?_symbol_ne (by decide) _)
        firstEnd spelled with
    ⟨_, namesEnd, readNames, rfl, spelled⟩
  rcases require_spelled (.symbol ":") spelled rfl (by decide) with
    ⟨colonEnd, readColon, spelled⟩
  rcases typeRef_finds isType colonEnd spelled with
    ⟨found, after, readType, same, rest⟩
  refine ⟨⟨cursor.skipBlanks.pos, first :: others, some found⟩, after,
    ?_, ?_, rest⟩
  · rw [decl, bind_eq_of_ok (here_eq cursor), bind_eq_of_ok readFirst,
      bind_eq_of_ok readNames, bind_eq_of_ok readColon]
    exact bind_eq_of_ok readType _
  · rw [Decl.unplaced, Decl.unplaced, Option.map_some, same, Option.map_some]

/-- The groups that follow a first group. -/
theorem decls_finds
    {others : List Decl}
    (first : Decl)
    (areGroups : ∀ decl ∈ others, decl.IsGroup)
    (noComma : firstChar? later ≠ some ',') :
    Finds (decls first) (List.map Decl.unplaced)
      (first.unplaced :: others.map Decl.unplaced)
      (others.flatMap fun decl =>
        Token.symbol "," :: decl.spelling.map Lexeme.token) later := by
  intro cursor spelled
  rcases
      afterCommas_finds (fun decl member _ => decl_finds (areGroups decl member))
        noComma cursor spelled with
    ⟨groups, after, read, same, rest⟩
  refine ⟨first :: groups, after, bind_eq_of_ok read _, ?_, rest⟩
  rw [List.map_cons, same]

/-! ## Values -/

theorem atom_finds
    {value : Expr}
    (isAtom : value.IsAtom) :
    Finds atom Expr.unplaced value.unplaced
      (value.atomSpelling.map Lexeme.token) later := by
  intro cursor spelled
  cases value with
  | intLit pos text =>
      rcases numeral?_spelled isAtom spelled.skipBlanks with ⟨after, read, rest⟩
      refine ⟨.intLit cursor.skipBlanks.pos text, after, ?_, rfl, rest⟩
      rw [atom, bind_eq_of_ok (here_eq cursor), bind_eq_of_ok read]
      rfl
  | var pos name =>
      rcases isAtom with ⟨isName, notNumeric⟩
      rcases ident?_spelled isName spelled.skipBlanks.skipBlanks with
        ⟨after, read, rest⟩
      have refused := numeral?_refused spelled.skipBlanks notNumeric
      refine ⟨.var cursor.skipBlanks.pos name, after, ?_, rfl, rest⟩
      rw [atom, bind_eq_of_ok (here_eq cursor), bind_eq_of_ok refused]
      exact bind_eq_of_ok read _
  | tuple pos elements =>
      exact isAtom.elim
  | bare pos =>
      exact isAtom.elim

/-- A value is found where no comma follows it. -/
theorem expr_finds
    {value : Expr}
    (isValue : value.IsValue)
    (noComma : firstChar? later ≠ some ',') :
    Finds (expr tuplePrec) Expr.unplaced value.unplaced
      (value.spelling.map Lexeme.token) later := by
  intro cursor spelled
  have single (isAtom : value.IsAtom) :
      ∃ result after,
        expr tuplePrec cursor = .ok result after ∧
          result.unplaced = value.unplaced ∧ Spelled later after.rest := by
    rw [(atomSpelling_eq_spelling isAtom).2] at spelled
    rcases atom_finds isAtom cursor spelled with
      ⟨found, after, read, same, rest⟩
    have refused := atSymbol_refused "," rest (by decide) (Ne.symm noComma)
    refine ⟨found, after.skipBlanks, ?_, same, rest.skipBlanks⟩
    rw [expr, bind_eq_of_ok read, if_neg (Int.lt_irrefl _)]
    exact bind_eq_of_ok refused _
  cases value with
  | intLit pos text =>
      exact single isValue
  | var pos name =>
      exact single isValue
  | bare pos =>
      exact isValue.elim
  | tuple pos elements =>
      rcases isValue with ⟨atLeastTwo, areAtoms⟩
      rcases List.exists_cons_of_length_pos (Nat.lt_of_succ_lt atLeastTwo) with
        ⟨first, others, rfl⟩
      rcases List.forall_mem_cons.1 areAtoms with ⟨isAtom, areAtoms⟩
      rw [Expr.spelling, map_token_beginning, map_token_commaBetween,
        List.append_assoc] at spelled
      rcases atom_finds isAtom cursor spelled with
        ⟨found, firstEnd, readFirst, sameFirst, spelled⟩
      have commaNext : atSymbol "," firstEnd = .ok true firstEnd.skipBlanks := by
        cases others with
        | nil =>
            exact absurd atLeastTwo (Nat.lt_irrefl _)
        | cons second others =>
            have seen : firstEnd.skipBlanks.atSymbol ",".toList = true :=
              atSymbol_of_spelled spelled (by decide)
            rw [atSymbol_eq, seen]
      rcases
          afterCommas_finds
            (fun element member _ => atom_finds (areAtoms element member))
            noComma _ spelled.skipBlanks with
        ⟨results, after, readOthers, sameOthers, rest⟩
      refine ⟨.tuple found.pos (found :: results), after, ?_, ?_, rest⟩
      · rw [expr, bind_eq_of_ok readFirst, if_neg (Int.lt_irrefl _),
          bind_eq_of_ok commaNext, if_pos rfl]
        exact bind_eq_of_ok readOthers _
      · simp only [Expr.unplaced, Expr.listUnplaced_eq_map, List.map_cons,
          sameFirst, sameOthers]

/-! ## Statements -/

/-- An initializer, or its absence, where neither a comma nor an equals sign follows. -/
theorem initializer?_finds
    {value : Option Expr}
    (isValue : ∀ initial ∈ value, initial.IsValue)
    (noComma : firstChar? later ≠ some ',')
    (noEquals : firstChar? later ≠ some '=') :
    Finds initializer? (Option.map Expr.unplaced) (value.map Expr.unplaced)
      ((spellInitializer value).map Lexeme.token) later := by
  intro cursor spelled
  cases value with
  | none =>
      have refused := accept_refused "=" spelled (by decide) (Ne.symm noEquals)
      exact ⟨none, _, bind_eq_of_ok refused _, rfl, spelled.skipBlanks⟩
  | some initial =>
      rcases accept_spelled (.symbol "=") spelled rfl (by decide) with
        ⟨middle, accepted, spelled⟩
      rcases expr_finds (isValue initial rfl) noComma middle spelled with
        ⟨found, after, read, same, rest⟩
      refine ⟨some found, after, ?_, congrArg some same, rest⟩
      rw [initializer?, bind_eq_of_ok accepted, if_pos rfl]
      exact bind_eq_of_ok read _

/-- Declarations without annotations are known from their names. -/
theorem map_unplaced_of_inferred
    {decls : List Decl}
    (inferred : ∀ decl ∈ decls, decl.IsInferred) :
    decls.map Decl.unplaced =
      (declaredNames decls).map fun name => ⟨.nowhere, [name], none⟩ := by
  induction decls with
  | nil =>
      rfl
  | cons first others ih =>
      rcases List.forall_mem_cons.1 inferred with
        ⟨⟨single, -, unannotated⟩, inferred⟩
      rcases List.length_eq_one_iff.1 single with ⟨name, names⟩
      rw [List.map_cons, ih inferred, declaredNames, declaredNames,
        List.flatMap_cons, names, List.map_append, Decl.unplaced, names,
        unannotated]
      rfl

/-- Names and a colon in front of an initializer. -/
theorem declStmt_finds_inferred
    {decls : List Decl}
    {value : Expr}
    (inferred : ∀ decl ∈ decls, decl.IsInferred)
    (isValue : value.IsValue)
    (noComma : firstChar? later ≠ some ',')
    (noEquals : firstChar? later ≠ some '=')
    (place pos : Pos) :
    Finds (declStmt place (declaredNames decls)) Stmt.unplaced
      (Stmt.decl pos decls (some value)).unplaced
      ((spellInitializer (some value)).map Lexeme.token) later := by
  intro cursor spelled
  have equalsNext : atSymbol "=" cursor = .ok true cursor.skipBlanks := by
    have seen : cursor.skipBlanks.atSymbol "=".toList = true :=
      atSymbol_of_spelled spelled (by decide)
    rw [atSymbol_eq, seen]
  have isInitial : ∀ initial ∈ some value, initial.IsValue := by
    rintro initial ⟨⟩
    exact isValue
  rcases initializer?_finds isInitial noComma noEquals _ spelled.skipBlanks with
    ⟨found, after, read, same, rest⟩
  refine ⟨.decl place
    ((declaredNames decls).map fun name => ⟨place, [name], none⟩) found,
    after, ?_, ?_, rest⟩
  · rw [declStmt, bind_eq_of_ok equalsNext, if_pos rfl]
    exact bind_eq_of_ok read _
  · rw [Stmt.unplaced, Stmt.unplaced, same, map_unplaced_of_inferred inferred,
      List.map_map]
    rfl

/-- The type of the first group, the other groups and an initializer. -/
theorem declStmt_finds_groups
    {first : Decl}
    {others : List Decl}
    {type : TypeRef}
    {value : Option Expr}
    (annotated : first.type = some type)
    (isType : IsName type.name)
    (areGroups : ∀ decl ∈ others, decl.IsGroup)
    (isValue : ∀ initial ∈ value, initial.IsValue)
    (noComma : firstChar? later ≠ some ',')
    (noEquals : firstChar? later ≠ some '=')
    (place pos : Pos) :
    Finds (declStmt place first.idents) Stmt.unplaced
      (Stmt.decl pos (first :: others) value).unplaced
      (type.spelling.map Lexeme.token ++
        ((others.flatMap fun decl =>
          Token.symbol "," :: decl.spelling.map Lexeme.token) ++
        (spellInitializer value).map Lexeme.token)) later := by
  intro cursor spelled
  rw [List.append_assoc, List.append_assoc] at spelled
  have noEqualsYet (tokens : List Token) :
      firstChar? (type.spelling.map Lexeme.token ++ tokens) ≠ some '=' :=
    (isType.beginsWord tokens).ne (by decide)
  have refused :=
    atSymbol_refused "=" spelled (by decide) (noEqualsYet _).symm
  rcases typeRef_finds isType _ spelled.skipBlanks with
    ⟨found, typeEnd, readType, sameType, spelled⟩
  have noCommaYet : firstChar?
      ((spellInitializer value).map Lexeme.token ++ later) ≠ some ',' := by
    cases value with
    | none =>
        exact noComma
    | some initial =>
        exact firstChar?_symbol_ne (by decide) _
  rcases
      decls_finds ⟨place, first.idents, some found⟩ areGroups noCommaYet
        typeEnd spelled with
    ⟨groups, groupsEnd, readGroups, sameGroups, spelled⟩
  rcases initializer?_finds isValue noComma noEquals groupsEnd spelled with
    ⟨initial, after, readValue, sameValue, rest⟩
  refine ⟨.decl place groups initial, after, ?_, ?_, rest⟩
  · rw [declStmt, bind_eq_of_ok refused, if_neg Bool.false_ne_true,
      bind_eq_of_ok readType, bind_eq_of_ok readGroups]
    exact bind_eq_of_ok readValue _
  · rw [Stmt.unplaced, Stmt.unplaced, sameGroups, sameValue, List.map_cons,
      Decl.unplaced, Decl.unplaced, annotated, Option.map_some, Option.map_some,
      sameType]

/-- The names behind a first one, an equals sign and a value. -/
theorem namesStmt_finds_assign
    {others : List String}
    {value : Expr}
    (first : String)
    (areNames : ∀ name ∈ others, IsName name)
    (isValue : value.IsValue)
    (noComma : firstChar? later ≠ some ',')
    (place pos : Pos) :
    Finds (namesStmt place first) Stmt.unplaced
      (Stmt.assign pos (first :: others) value).unplaced
      ((others.flatMap fun name => [.symbol ",", .word name]) ++
        .symbol "=" :: value.spelling.map Lexeme.token) later := by
  intro cursor spelled
  rw [List.append_assoc, List.cons_append] at spelled
  rcases
      idents_finds first areNames (firstChar?_symbol_ne (by decide) _)
        cursor spelled with
    ⟨_, namesEnd, readNames, rfl, spelled⟩
  have noCall := atSymbol_refused "(" spelled (by decide)
    (firstChar?_symbol_ne (by decide) _).symm
  rcases accept_spelled (.symbol "=") spelled.skipBlanks rfl (by decide) with
    ⟨equalsEnd, accepted, spelled⟩
  rcases expr_finds isValue noComma equalsEnd spelled with
    ⟨found, after, read, same, rest⟩
  refine ⟨.assign place (first :: others) found, after, ?_, ?_, rest⟩
  · rw [namesStmt, bind_eq_of_ok readNames, bind_eq_of_ok noCall,
      if_neg Bool.false_ne_true, bind_eq_of_ok accepted, if_pos rfl]
    exact bind_eq_of_ok read _
  · rw [Stmt.unplaced, Stmt.unplaced, same]

/-- The names behind a first one, a colon and what the colon announces. -/
theorem namesStmt_finds_decl
    {first : String}
    {others : List String}
    {place : Pos}
    {expected : Stmt}
    {tokens : List Token}
    (areNames : ∀ name ∈ others, IsName name)
    (declared : Finds (declStmt place (first :: others)) Stmt.unplaced
      expected tokens later) :
    Finds (namesStmt place first) Stmt.unplaced expected
      ((others.flatMap fun name => [.symbol ",", .word name]) ++
        .symbol ":" :: tokens) later := by
  intro cursor spelled
  rw [List.append_assoc, List.cons_append] at spelled
  rcases
      idents_finds first areNames (firstChar?_symbol_ne (by decide) _)
        cursor spelled with
    ⟨_, namesEnd, readNames, rfl, spelled⟩
  have noCall := atSymbol_refused "(" spelled (by decide)
    (firstChar?_symbol_ne (by decide) _).symm
  have noEquals := accept_refused "=" spelled.skipBlanks (by decide)
    (firstChar?_symbol_ne (by decide) _).symm
  rcases
      accept_spelled (.symbol ":") spelled.skipBlanks.skipBlanks rfl (by decide) with
    ⟨colonEnd, accepted, spelled⟩
  rcases declared colonEnd spelled with ⟨found, after, read, same, rest⟩
  refine ⟨found, after, ?_, same, rest⟩
  rw [namesStmt, bind_eq_of_ok readNames, bind_eq_of_ok noCall,
    if_neg Bool.false_ne_true, bind_eq_of_ok noEquals,
    if_neg Bool.false_ne_true, bind_eq_of_ok accepted, if_pos rfl]
  exact read

/-- A statement whose first word is no keyword. -/
theorem stmt_finds_names
    {first : String}
    {expected : Stmt}
    {tokens : List Token}
    (isName : IsName first)
    (notReturn : first ≠ "return")
    (found : ∀ place,
      Finds (namesStmt place first) Stmt.unplaced expected tokens later) :
    Finds stmt Stmt.unplaced expected (.word first :: tokens) later := by
  intro cursor spelled
  rcases ident_spelled "statement" isName spelled.skipBlanks with
    ⟨wordEnd, readWord, spelled⟩
  have noReturn : beginsReturn first wordEnd = .ok false wordEnd := by
    rw [beginsReturn, if_neg notReturn]
    rfl
  rcases found _ wordEnd spelled with ⟨result, after, read, same, rest⟩
  refine ⟨result, after, ?_, same, rest⟩
  rw [stmt, bind_eq_of_ok (here_eq cursor), bind_eq_of_ok readWord,
    bind_eq_of_ok noReturn, if_neg Bool.false_ne_true]
  exact read

/-- The keyword and a value, which no parenthesis begins. -/
theorem stmt_finds_return
    {value : Expr}
    (isValue : value.IsValue)
    (noComma : firstChar? later ≠ some ',')
    (pos : Pos) :
    Finds stmt Stmt.unplaced (Stmt.ret pos value).unplaced
      (.word "return" :: value.spelling.map Lexeme.token) later := by
  intro cursor spelled
  have isName : IsName "return" := by decide
  rcases ident_spelled "statement" isName spelled.skipBlanks with
    ⟨wordEnd, readWord, spelled⟩
  have noCall :
      some '(' ≠ firstChar? (value.spelling.map Lexeme.token ++ later) :=
    ((isValue.beginsWord later).ne (by decide)).symm
  have refused := atSymbol_refused "(" spelled (by decide) noCall
  have isReturn :
      beginsReturn "return" wordEnd = .ok true wordEnd.skipBlanks := by
    rw [beginsReturn, if_pos rfl, bind_eq_of_ok refused]
    rfl
  rcases expr_finds isValue noComma _ spelled.skipBlanks with
    ⟨found, after, read, same, rest⟩
  refine ⟨.ret cursor.skipBlanks.pos found, after, ?_, ?_, rest⟩
  · rw [stmt, bind_eq_of_ok (here_eq cursor), bind_eq_of_ok readWord,
      bind_eq_of_ok isReturn, if_pos rfl]
    exact bind_eq_of_ok read _
  · rw [Stmt.unplaced, Stmt.unplaced, same]

/-- A statement is found where neither a comma nor an equals sign follows. -/
theorem stmt_finds
    {statement : Stmt}
    (wellFormed : statement.WellFormed)
    (noComma : firstChar? later ≠ some ',')
    (noEquals : firstChar? later ≠ some '=') :
    Finds stmt Stmt.unplaced statement.unplaced
      (statement.spelling.map Lexeme.token) later := by
  cases statement with
  | assign pos names value =>
      rcases wellFormed with ⟨⟨nonempty, areNames⟩, notReturn, isValue⟩
      rcases List.exists_cons_of_ne_nil nonempty with ⟨first, others, rfl⟩
      rcases List.forall_mem_cons.1 areNames with ⟨isName, areNames⟩
      rw [Stmt.spelling, map_token_beginning, List.map_append,
        map_token_spellNames, List.cons_append]
      refine stmt_finds_names isName ?_ ?_
      · exact fun same => notReturn (congrArg some same)
      · intro place
        exact namesStmt_finds_assign first areNames isValue noComma place pos
  | decl pos decls value =>
      rcases wellFormed with ⟨nonempty, notReturn, oneWay⟩
      rw [Stmt.spelling, map_token_beginning, List.map_append]
      rcases oneWay with ⟨groups, isValue⟩ | ⟨inferred, initial, given, isValue⟩
      · rw [spellDecls_of_groups nonempty groups]
        rcases List.exists_cons_of_ne_nil nonempty with ⟨group, others, rfl⟩
        rcases List.forall_mem_cons.1 groups with ⟨isGroup, areGroups⟩
        rcases isGroup with ⟨⟨named, areNames⟩, type, annotated, isType⟩
        rcases List.exists_cons_of_ne_nil named with ⟨first, names, namesEq⟩
        rw [namesEq] at areNames
        rcases List.forall_mem_cons.1 areNames with ⟨isName, areNames⟩
        have declared := declStmt_finds_groups annotated isType areGroups
          isValue noComma noEquals
        rw [Option.mem_def] at annotated
        rw [map_token_commaBetween, Decl.spelling, map_token_beginning,
          List.map_append, namesEq, map_token_spellNames, annotated]
        simp only [List.cons_append, List.append_assoc]
        refine stmt_finds_names isName ?_ ?_
        · intro same
          rw [declaredNames, List.flatMap_cons, namesEq, same] at notReturn
          exact notReturn rfl
        · intro place
          rw [namesEq] at declared
          exact namesStmt_finds_decl areNames (declared place pos)
      · rw [Option.mem_def] at given
        rw [spellDecls_of_inferred inferred, map_token_beginning,
          List.map_append, given]
        have declared :=
          declStmt_finds_inferred inferred isValue noComma noEquals
        rcases
            isNameList_declaredNames nonempty
              fun decl member => (inferred decl member).2.1 with
          ⟨named, areNames⟩
        rcases List.exists_cons_of_ne_nil named with ⟨first, others, names⟩
        rw [names] at declared notReturn areNames
        rcases List.forall_mem_cons.1 areNames with ⟨isName, areNames⟩
        rw [names, map_token_spellNames, List.cons_append, List.cons_append,
          List.append_assoc]
        refine stmt_finds_names isName ?_ ?_
        · exact fun same => notReturn (congrArg some same)
        · intro place
          exact namesStmt_finds_decl areNames (declared place pos)
  | ret pos value =>
      exact stmt_finds_return wellFormed noComma pos
  | bare pos =>
      exact wellFormed.elim

/-! ## Functions -/

theorem params_find
    {groups : List Decl}
    (areGroups : ∀ decl ∈ groups, decl.IsGroup) :
    Finds params (List.map Decl.unplaced) (groups.map Decl.unplaced)
      ((commaBetween (groups.map Decl.spelling)).map Lexeme.token)
      (.symbol ")" :: later) := by
  intro cursor spelled
  cases groups with
  | nil =>
      have seen : cursor.skipBlanks.atSymbol ")".toList = true :=
        atSymbol_of_spelled spelled (by decide)
      refine ⟨[], cursor.skipBlanks, ?_, rfl, spelled.skipBlanks⟩
      rw [params, bind_eq_of_ok (atSymbol_eq _ _), if_pos seen]
      rfl
  | cons group others =>
      rcases List.forall_mem_cons.1 areGroups with ⟨isGroup, areGroups⟩
      rw [map_token_commaBetween, List.append_assoc] at spelled
      have noClose (tokens : List Token) : some ')' ≠
          firstChar? (group.spelling.map Lexeme.token ++ tokens) :=
        ((isGroup.beginsWord tokens).ne (by decide)).symm
      have refused := atSymbol_refused ")" spelled (by decide) (noClose _)
      rcases decl_finds isGroup _ spelled.skipBlanks with
        ⟨first, firstEnd, readFirst, sameFirst, spelled⟩
      rcases
          decls_finds first areGroups (firstChar?_symbol_ne (by decide) _)
            firstEnd spelled with
        ⟨found, after, read, same, rest⟩
      refine ⟨found, after, ?_, ?_, rest⟩
      · rw [params, bind_eq_of_ok refused, if_neg Bool.false_ne_true,
          bind_eq_of_ok readFirst]
        exact read
      · rw [same, sameFirst, List.map_cons]

theorem rets_find
    {types : List TypeRef}
    (areTypes : ∀ type ∈ types, IsName type.name) :
    Finds rets (List.map TypeRef.unplaced) (types.map TypeRef.unplaced)
      ((spellRets types).map Lexeme.token)
      (.symbol "\x7b" :: later) := by
  intro cursor spelled
  cases types with
  | nil =>
      have refused := accept_refused "->" spelled (by decide)
        (firstChar?_symbol_ne (by decide) later).symm
      exact ⟨[], _, bind_eq_of_ok refused _, rfl, spelled.skipBlanks⟩
  | cons type others =>
      rcases List.forall_mem_cons.1 areTypes with ⟨isType, areTypes⟩
      rw [spellRets_cons, List.map_cons, map_token_commaBetween, List.cons_append,
        List.append_assoc] at spelled
      rcases accept_spelled (.symbol "->") spelled rfl (by decide) with
        ⟨arrowEnd, accepted, spelled⟩
      rcases typeRef_finds isType arrowEnd spelled with
        ⟨first, firstEnd, readFirst, sameFirst, spelled⟩
      rcases
          afterCommas_finds
            (fun type member _ => typeRef_finds (areTypes type member))
            (firstChar?_symbol_ne (by decide) _) firstEnd spelled with
        ⟨found, after, read, same, rest⟩
      refine ⟨first :: found, after, ?_, ?_, rest⟩
      · rw [rets, bind_eq_of_ok accepted, if_pos rfl, bind_eq_of_ok readFirst]
        exact bind_eq_of_ok read _
      · rw [List.map_cons, sameFirst, same, List.map_cons]

/-- The statements of a body and the brace behind them. -/
theorem body_finds
    {body : List Stmt}
    (areStmts : ∀ stmt ∈ body, stmt.WellFormed) :
    Finds (many bodyStep) (List.map Stmt.unplaced) (body.map Stmt.unplaced)
      ((body.flatMap fun stmt => stmt.spelling.map Lexeme.token) ++
        [.symbol "\x7d"]) later := by
  intro cursor spelled
  have nonempty : ∀ stmt ∈ body, stmt.spelling.map Lexeme.token ≠ [] := by
    intro stmt member empty
    have begins := (areStmts stmt member).beginsWord []
    rw [empty] at begins
    cases begins
  have enough : body.length < cursor.rest.length + 1 := by
    have tokens := spelled.length_le
    have items := length_le_length_flatMap nonempty
    rw [List.length_append, List.length_append] at tokens
    omega
  refine repeated_finds
    (fun rest => firstChar? rest ≠ some ',' ∧ firstChar? rest ≠ some '=')
    ?_ ?_ ?_ ?_ enough cursor spelled
  · rintro stmt member rest ⟨noComma, noEquals⟩ cursor spelled
    have begins := (areStmts stmt member).beginsWord rest
    have refused := accept_refused "\x7d" spelled (by decide)
      (begins.ne (by decide)).symm
    have notEnded : atEnd cursor.skipBlanks = .ok false cursor.skipBlanks := by
      have next := spelled.head?_eq
      rw [atEnd_eq, Cursor.skipBlanks_skipBlanks]
      cases ahead : cursor.skipBlanks.rest with
      | nil =>
          rw [ahead, List.head?_nil] at next
          rw [BeginsWord, ← next] at begins
          cases begins
      | cons char others =>
          rfl
    rcases
        stmt_finds (areStmts stmt member) noComma noEquals _ spelled.skipBlanks with
      ⟨found, after, read, same, rest⟩
    refine ⟨some found, after, ?_, congrArg some same, rest⟩
    rw [bodyStep, bind_eq_of_ok refused, if_neg Bool.false_ne_true,
      bind_eq_of_ok notEnded, if_neg Bool.false_ne_true]
    exact bind_eq_of_ok read _
  · intro cursor spelled
    rcases accept_spelled (.symbol "\x7d") spelled rfl (by decide) with
      ⟨after, accepted, rest⟩
    exact ⟨none, after, bind_eq_of_ok accepted _, rfl, rest⟩
  · intro stmt member rest
    have begins := (areStmts stmt member).beginsWord rest
    exact ⟨begins.ne (by decide), begins.ne (by decide)⟩
  · exact ⟨firstChar?_symbol_ne (by decide) _,
      firstChar?_symbol_ne (by decide) _⟩

/-- A whole function is found where no tokens are left behind it. -/
theorem function_finds
    {tree : Function}
    (wellFormed : tree.WellFormed) :
    Finds function Function.unplaced tree.unplaced tree.tokens [] := by
  rcases wellFormed with ⟨isName, areGroups, areTypes, areStmts⟩
  intro cursor spelled
  rw [List.append_nil, Function.tokens, Function.spelling] at spelled
  simp only [List.map_cons, List.map_append, List.map_flatMap, List.map_nil,
    token_bare] at spelled
  rcases require_spelled (.word "fn") spelled.skipBlanks rfl (fun _ => rfl) with
    ⟨fnEnd, readFn, spelled⟩
  rcases ident_spelled "function name" isName spelled with
    ⟨nameEnd, readName, spelled⟩
  rcases require_spelled (.symbol "(") spelled rfl (by decide) with
    ⟨openEnd, readOpen, spelled⟩
  rcases params_find areGroups openEnd spelled with
    ⟨groups, groupsEnd, readGroups, sameGroups, spelled⟩
  rcases require_spelled (.symbol ")") spelled rfl (by decide) with
    ⟨closeEnd, readClose, spelled⟩
  rcases rets_find areTypes closeEnd spelled with
    ⟨types, typesEnd, readTypes, sameTypes, spelled⟩
  rcases require_spelled (.symbol "\x7b") spelled rfl (by decide) with
    ⟨braceEnd, readBrace, spelled⟩
  rw [← List.append_nil (_ ++ _)] at spelled
  rcases body_finds areStmts braceEnd spelled with
    ⟨body, bodyEnd, readBody, sameBody, spelled⟩
  have ended : atEnd bodyEnd = .ok true bodyEnd.skipBlanks := by
    rw [atEnd_eq, spelled.rest_eq_nil]
    rfl
  refine ⟨⟨cursor.skipBlanks.pos, tree.name, groups, types, body⟩,
    bodyEnd.skipBlanks, ?_, ?_, spelled.skipBlanks⟩
  · rw [function, bind_eq_of_ok (here_eq cursor), bind_eq_of_ok readFn,
      bind_eq_of_ok readName, bind_eq_of_ok readOpen,
      bind_eq_of_ok readGroups, bind_eq_of_ok readClose,
      bind_eq_of_ok readTypes, bind_eq_of_ok readBrace,
      bind_eq_of_ok readBody, bind_eq_of_ok ended]
    rfl
  · rw [Function.unplaced, Function.unplaced, sameGroups, sameTypes, sameBody]

end Parser

/--
Every layout of the tokens of a well-formed function parses to that function,
with each node positioned at its first token in the layout.
-/
theorem parse_layout
    {function : Function}
    (wellFormed : function.WellFormed)
    {layout : Layout}
    (tokens : layout.tokens = function.tokens)
    (separated : layout.Separated) :
    ∃ parsed : Function,
      parse (String.ofList layout.text) = .ok parsed ∧
      parsed.unplaced = function.unplaced ∧
      PlacedAt layout.text layout.offsets parsed.spelling := by
  have solid : ∀ token ∈ layout.tokens, token.Solid := by
    rw [tokens]
    exact wellFormed.solid
  have spelled := layout.spelled solid separated
  rw [tokens, ← List.append_nil function.tokens,
    ← String.toList_ofList (l := layout.text)] at spelled
  rcases
      Parser.function_finds wellFormed
        (Cursor.start (String.ofList layout.text)) spelled with
    ⟨parsed, after, read, same, -⟩
  have succeeds : parse (String.ofList layout.text) = .ok parsed := by
    rw [parse, read]
  rcases exists_layout_of_parse succeeds with
    ⟨-, found, foundText, foundTokens, placed⟩
  rw [String.toList_ofList] at foundText placed
  have sameTokens : layout.tokens = found.tokens := by
    rw [foundTokens, tokens, ← tokens_unplaced parsed, same, tokens_unplaced]
  rw [← Layout.offsets_eq foundText.symm sameTokens solid] at placed
  exact ⟨parsed, succeeds, same, placed⟩

/-- Blanks are needed between a number and a word, and nowhere else here. -/
theorem parse_layout_dense :
    ∃ layout : Layout,
      layout.text = "fn f()\x7bx=1\nreturn x\x7d".toList ∧
      layout.Separated ∧
      ∃ parsed : Function,
        parse (String.ofList layout.text) = .ok parsed ∧
        parsed.unplaced =
          ⟨.nowhere, "f", [], [],
            [ .assign .nowhere ["x"] (.intLit .nowhere "1"),
              .ret .nowhere (.var .nowhere "x") ]⟩ ∧
        PlacedAt layout.text layout.offsets parsed.spelling := by
  have wellFormed : Function.WellFormed
      ⟨.nowhere, "f", [], [],
        [ .assign .nowhere ["x"] (.intLit .nowhere "1"),
          .ret .nowhere (.var .nowhere "x") ]⟩ := by
    decide
  have space : ∀ char ∈ [' '], isBlank char = true :=
    List.forall_mem_singleton.2 rfl
  have newline : ∀ char ∈ ['\n'], isBlank char = true :=
    List.forall_mem_singleton.2 rfl
  have none : ∀ char ∈ [], isBlank char = true :=
    List.forall_mem_nil _
  refine ⟨⟨[ ⟨[], .word "fn", none⟩, ⟨[' '], .word "f", space⟩,
    ⟨[], .symbol "(", none⟩, ⟨[], .symbol ")", none⟩,
    ⟨[], .symbol "\x7b", none⟩, ⟨[], .word "x", none⟩,
    ⟨[], .symbol "=", none⟩, ⟨[], .number "1", none⟩,
    ⟨['\n'], .word "return", newline⟩, ⟨[' '], .word "x", space⟩,
    ⟨[], .symbol "\x7d", none⟩ ], [], none⟩, ?_, ?_, ?_⟩
  · rfl
  · simp [Layout.Separated, Token.word, Token.symbol, Token.number]
  · exact parse_layout wellFormed rfl
      (by simp [Layout.Separated, Token.word, Token.symbol, Token.number])

end Sprig
