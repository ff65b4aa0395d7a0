import Sprig.Proofs.Parser.Progress

/-!
# What the parser accepts

Every reader of the grammar passes exactly the spelling of the tree that it
gives, and the tree is well formed.  `ReadsAs` states this for one reader.
The readers of lists that have been begun elsewhere are described with the
way that leads to them, so that the position of a statement is at hand where
its first names have been read already.

The main theorem puts the readers together.  If a source parses to a
function, the function is well formed, and the tokens that are read off it
stand in the source in order, with nothing but blanks between them, each at
the positions that its nodes claim.
-/

namespace Sprig

open Sprig.Text

namespace Parser

variable {α : Type}
variable {cursor after start : Cursor}

/-- What a reader gives is good and is spelled by what the reader passes. -/
def ReadsAs
    (reader : Parser α)
    (good : α → Prop)
    (spelling : α → List Lexeme) : Prop :=
  ∀ cursor result after,
    reader cursor = .ok result after →
      good result ∧ Reads cursor (spelling result) after

/-! ## Lists -/

/-- The results of a repeated step, and what ends the repetition. -/
theorem reads_of_repeated
    {step : Parser (Option α)}
    {good : α → Prop}
    {spelling : α → List Lexeme}
    {ending : List Lexeme}
    (item : ∀ cursor result after,
      step cursor = .ok (some result) after →
        good result ∧ Reads cursor (spelling result) after)
    (last : ∀ cursor after,
      step cursor = .ok none after → Reads cursor ending after)
    {rounds : Nat}
    {results : List α}
    (read : repeated step rounds cursor = .ok results after) :
    (∀ result ∈ results, good result) ∧
      Reads cursor (results.flatMap spelling ++ ending) after := by
  induction rounds generalizing cursor results with
  | zero =>
      cases read
  | succ rounds ih =>
      rcases exists_of_bind_eq_ok read with ⟨found, middle, stepped, rest⟩
      cases found with
      | none =>
          cases rest
          exact ⟨by simp, last _ _ stepped⟩
      | some result =>
          rcases exists_of_bind_eq_ok rest with ⟨others, later, repeated, rest⟩
          cases rest
          rcases item _ _ _ stepped with ⟨resultGood, passed⟩
          rcases ih repeated with ⟨othersGood, further⟩
          constructor
          · exact List.forall_mem_cons.2 ⟨resultGood, othersGood⟩
          · rw [List.flatMap_cons, List.append_assoc]
            exact passed.append further

/-- A repetition ends with the first step that gives nothing. -/
theorem repeated_of_none
    {step : Parser (Option α)}
    (stopped : step cursor = .ok none after)
    (rounds : Nat) :
    repeated step (rounds + 1) cursor = .ok [] after := by
  rw [repeated, bind_eq_of_ok stopped]
  rfl

/-- A repetition that gives nothing has made one step, which gave nothing. -/
theorem step_of_repeated_nil
    {step : Parser (Option α)}
    {rounds : Nat}
    (read : repeated step rounds cursor = .ok [] after) :
    step cursor = .ok none after := by
  cases rounds with
  | zero =>
      cases read
  | succ rounds =>
      rcases exists_of_bind_eq_ok read with ⟨found, middle, stepped, rest⟩
      cases found with
      | none =>
          cases rest
          exact stepped
      | some result =>
          rcases exists_of_bind_eq_ok rest with ⟨others, later, -, rest⟩
          cases rest

/-- An item that was read behind a comma. -/
theorem reads_of_commaItem
    {item : Parser α}
    {good : α → Prop}
    {spelling : α → List Lexeme}
    {result : α}
    (reads : ReadsAs item good spelling)
    (read : commaItem item cursor = .ok (some result) after) :
    good result ∧
      Reads cursor ((Token.symbol ",").bare :: spelling result) after := by
  rcases exists_of_bind_eq_ok read with ⟨accepted, middle, comma, rest⟩
  cases accepted with
  | false =>
      cases rest
  | true =>
      rcases exists_of_bind_eq_ok rest with ⟨value, later, readItem, rest⟩
      cases rest
      rcases reads _ _ _ readItem with ⟨valueGood, passed⟩
      exact ⟨valueGood, (reads_of_accept comma).append passed⟩

/-- Items after commas are spelled one by one. -/
theorem afterCommas_readsAs
    {item : Parser α}
    {good : α → Prop}
    {spelling : α → List Lexeme}
    (reads : ReadsAs item good spelling) :
    ReadsAs (afterCommas item)
      (fun results => ∀ result ∈ results, good result)
      (fun results => commaBefore (results.map spelling)) := by
  intro cursor results after read
  beta_reduce
  rw [commaBefore_map, ← List.append_nil (List.flatMap _ _)]
  refine reads_of_repeated (fun _ _ _ => reads_of_commaItem reads) ?_ read
  intro cursor after stepped
  rcases exists_of_bind_eq_ok stepped with ⟨accepted, middle, comma, rest⟩
  cases accepted with
  | false =>
      cases rest
      rw [eq_skipBlanks_of_accept comma]
      exact .skipBlanks _
  | true =>
      rcases exists_of_bind_eq_ok rest with ⟨value, later, -, rest⟩
      cases rest

/-! ## Names, types and groups -/

theorem typeRef_readsAs :
    ReadsAs typeRef (fun type => IsName type.name) TypeRef.spelling := by
  intro cursor type after read
  rcases exists_of_bind_eq_ok read with ⟨pos, middle, begun, rest⟩
  cases begun
  rcases exists_of_bind_eq_ok rest with ⟨name, later, readName, rest⟩
  cases rest
  rcases reads_of_ident readName with ⟨isName, passed⟩
  refine ⟨isName, .of_skipBlanks ?_⟩
  exact passed.beginning [cursor.skipBlanks.pos]
    cursor.atToken_skipBlanks (by simp)

/-- A list of names whose first name has been read. -/
theorem reads_of_idents
    {first : String}
    {names : List String}
    (isName : IsName first)
    (begun : Reads start [(Token.word first).bare] cursor)
    (read : idents first cursor = .ok names after) :
    IsNameList names ∧ names.head? = some first ∧
      Reads start (spellNames names) after := by
  rcases exists_of_bind_eq_ok read with ⟨others, middle, readOthers, rest⟩
  cases rest
  have identReads : ReadsAs (ident "identifier") IsName
      fun name => [(Token.word name).bare] :=
    fun _ _ _ => reads_of_ident
  rcases afterCommas_readsAs identReads _ _ _ readOthers with
    ⟨othersNames, passed⟩
  refine ⟨⟨by simp, ?_⟩, rfl, begun.append passed⟩
  exact List.forall_mem_cons.2 ⟨isName, othersNames⟩

theorem decl_readsAs : ReadsAs decl Decl.IsGroup Decl.spelling := by
  intro cursor result after read
  rcases exists_of_bind_eq_ok read with ⟨pos, middle, begun, rest⟩
  cases begun
  rcases exists_of_bind_eq_ok rest with ⟨first, firstEnd, readFirst, rest⟩
  rcases exists_of_bind_eq_ok rest with ⟨names, namesEnd, readNames, rest⟩
  rcases exists_of_bind_eq_ok rest with ⟨⟨⟩, colonEnd, readColon, rest⟩
  rcases exists_of_bind_eq_ok rest with ⟨type, typeEnd, readType, rest⟩
  cases rest
  rcases reads_of_ident readFirst with ⟨isName, firstPassed⟩
  rcases reads_of_idents isName firstPassed readNames with
    ⟨isNames, -, namesPassed⟩
  have colonPassed :=
    reads_of_accept (accept_of_require readColon)
  rcases typeRef_readsAs _ _ _ readType with ⟨isType, typePassed⟩
  refine ⟨⟨isNames, type, rfl, isType⟩, .of_skipBlanks ?_⟩
  exact (namesPassed.append (colonPassed.append typePassed)).beginning
    [cursor.skipBlanks.pos] cursor.atToken_skipBlanks (by simp)

/-- A list of groups whose first group has been read. -/
theorem reads_of_decls
    {first : Decl}
    {groups : List Decl}
    (isGroup : first.IsGroup)
    (begun : Reads start first.spelling cursor)
    (read : decls first cursor = .ok groups after) :
    (∀ decl ∈ groups, decl.IsGroup) ∧ groups.head? = some first ∧
      Reads start (commaBetween (groups.map Decl.spelling)) after := by
  rcases exists_of_bind_eq_ok read with ⟨others, middle, readOthers, rest⟩
  cases rest
  rcases afterCommas_readsAs decl_readsAs _ _ _ readOthers with
    ⟨othersGroups, passed⟩
  refine ⟨?_, rfl, begun.append passed⟩
  exact List.forall_mem_cons.2 ⟨isGroup, othersGroups⟩

/-! ## Values -/

theorem atomSpelling_eq_spelling
    {value : Expr}
    (isAtom : value.IsAtom) :
    value.IsValue ∧ value.spelling = value.atomSpelling := by
  cases value with
  | intLit pos text =>
      exact ⟨isAtom, rfl⟩
  | var pos name =>
      exact ⟨isAtom, rfl⟩
  | tuple pos elements =>
      exact isAtom.elim
  | bare pos =>
      exact isAtom.elim

/-- An atom is positioned at the next token, from which it is read. -/
theorem reads_of_atom
    {value : Expr}
    (read : atom cursor = .ok value after) :
    value.IsAtom ∧ value.pos = cursor.skipBlanks.pos ∧
      Reads cursor.skipBlanks value.atomSpelling after := by
  rcases exists_of_bind_eq_ok read with ⟨pos, middle, begun, rest⟩
  cases begun
  rcases exists_of_bind_eq_ok rest with ⟨number, numberEnd, readNumber, rest⟩
  cases number with
  | some text =>
      cases rest
      rcases reads_of_numeral? readNumber with ⟨isNumber, passed⟩
      refine ⟨isNumber, rfl, ?_⟩
      exact passed.beginning [cursor.skipBlanks.pos]
        cursor.atToken_skipBlanks (by simp)
  | none =>
      rcases eq_skipBlanks_of_numeral? readNumber with ⟨rfl, notNumeric⟩
      rw [Cursor.skipBlanks_skipBlanks] at notNumeric rest
      rcases exists_of_bind_eq_ok rest with ⟨found, nameEnd, readName, rest⟩
      cases found with
      | none =>
          cases rest
      | some name =>
          cases rest
          rcases reads_of_ident? readName with ⟨isName, passed⟩
          refine ⟨⟨isName, ?_⟩, rfl, ?_⟩
          · rcases passed.rest_eq_of_atToken cursor.atToken_skipBlanks with
              ⟨rest, next⟩
            rw [next] at notNumeric
            cases text : name.toList with
            | nil =>
                rfl
            | cons char others =>
                simpa [Token.bare, Token.word, text] using notNumeric
          · exact passed.beginning [cursor.skipBlanks.pos]
              cursor.atToken_skipBlanks (by simp)

theorem atom_readsAs : ReadsAs atom Expr.IsAtom Expr.atomSpelling := by
  intro cursor value after read
  rcases reads_of_atom read with ⟨isAtom, -, passed⟩
  exact ⟨isAtom, .of_skipBlanks passed⟩

/-- A symbol that comes next is accepted. -/
theorem accept_of_atSymbol
    {symbol : String}
    {answer : Bool}
    (seen : atSymbol symbol cursor = .ok answer after) :
    after = cursor.skipBlanks ∧
      ∃ last, accept symbol after = .ok answer last := by
  rw [atSymbol_eq] at seen
  cases seen
  refine ⟨rfl, ?_⟩
  rw [accept_eq, Cursor.skipBlanks_skipBlanks]
  split
  next found =>
    exact ⟨_, by rw [found]⟩
  next missing =>
    exact ⟨_, by rw [Bool.not_eq_true] at missing; rw [missing]⟩

/-- Where a comma comes next, an item follows it. -/
theorem afterCommas_ne_nil
    {item : Parser α}
    {results : List α}
    {middle : Cursor}
    (comma : accept "," cursor = .ok true middle)
    (read : afterCommas item cursor = .ok results after) :
    results ≠ [] := by
  rintro rfl
  rcases exists_of_bind_eq_ok (step_of_repeated_nil read) with
    ⟨accepted, later, accepting, rest⟩
  rw [comma] at accepting
  cases accepting
  rcases exists_of_bind_eq_ok rest with ⟨value, last, -, rest⟩
  cases rest

theorem expr_readsAs :
    ReadsAs (expr tuplePrec) Expr.IsValue Expr.spelling := by
  intro cursor value after read
  rcases exists_of_bind_eq_ok read with ⟨first, middle, readFirst, rest⟩
  rw [if_neg (Int.lt_irrefl _)] at rest
  rcases reads_of_atom readFirst with ⟨isAtom, position, firstPassed⟩
  rcases exists_of_bind_eq_ok rest with ⟨seen, later, seeing, rest⟩
  rcases accept_of_atSymbol seeing with ⟨rfl, last, comma⟩
  cases seen with
  | false =>
      cases rest
      rcases atomSpelling_eq_spelling isAtom with ⟨isValue, spelling⟩
      rw [spelling]
      refine ⟨isValue, .of_skipBlanks ?_⟩
      rw [← List.append_nil (Expr.atomSpelling _)]
      exact firstPassed.append (.skipBlanks _)
  | true =>
      rcases exists_of_bind_eq_ok rest with ⟨others, finish, readOthers, rest⟩
      cases rest
      rcases afterCommas_readsAs atom_readsAs _ _ _ readOthers with
        ⟨areAtoms, othersPassed⟩
      have atLeastOne := List.length_pos_iff.2 (afterCommas_ne_nil comma readOthers)
      constructor
      · refine ⟨?_, List.forall_mem_cons.2 ⟨isAtom, areAtoms⟩⟩
        rw [List.length_cons]
        omega
      · refine .of_skipBlanks (Reads.beginning ?_ [first.pos]
          cursor.atToken_skipBlanks (by simpa using position))
        exact firstPassed.append (.of_skipBlanks othersPassed)

/-- An initializer is read exactly where an equals sign comes next. -/
theorem reads_of_initializer?
    {value : Option Expr}
    (read : initializer? cursor = .ok value after) :
    (∀ initial ∈ value, initial.IsValue) ∧
      Reads cursor (spellInitializer value) after ∧
      ∃ middle, accept "=" cursor = .ok value.isSome middle := by
  rcases exists_of_bind_eq_ok read with ⟨accepted, middle, equals, rest⟩
  cases accepted with
  | false =>
      cases rest
      refine ⟨?_, ?_, after, equals⟩
      · intro initial given
        exact (Option.not_mem_none _ given).elim
      · rw [eq_skipBlanks_of_accept equals]
        exact .skipBlanks _
  | true =>
      rcases exists_of_bind_eq_ok rest with ⟨initial, later, readValue, rest⟩
      cases rest
      rcases expr_readsAs _ _ _ readValue with ⟨isValue, passed⟩
      have equalsPassed := reads_of_accept equals
      refine ⟨?_, equalsPassed.append passed, middle, equals⟩
      intro other member
      cases member
      exact isValue

/-! ## Statements -/

theorem declaredNames_map_single
    (pos : Pos)
    (names : List String) :
    declaredNames (names.map fun name => ⟨pos, [name], none⟩) = names := by
  simp [declaredNames, List.flatMap_map]

/-- Names without annotations are declared one by one. -/
theorem isInferred_map_single
    {names : List String}
    (isNames : IsNameList names)
    (pos : Pos) :
    ∀ decl ∈ names.map fun name => (⟨pos, [name], none⟩ : Decl),
      decl.IsInferred := by
  rw [List.forall_mem_map]
  intro name member
  exact ⟨rfl, ⟨by simp, by simpa using isNames.2 name member⟩, rfl⟩

theorem wellFormed_of_inferred
    {names : List String}
    {value : Expr}
    (isNames : IsNameList names)
    (notReturn : names.head? ≠ some "return")
    (isValue : value.IsValue)
    (pos place : Pos) :
    (Stmt.decl pos (names.map fun name => ⟨place, [name], none⟩)
      (some value)).WellFormed := by
  refine ⟨?_, ?_,
    .inr ⟨isInferred_map_single isNames place, value, rfl, isValue⟩⟩
  · simpa using isNames.1
  · rwa [declaredNames_map_single]

/-- Groups of which the first one has known names. -/
theorem wellFormed_of_groups
    {names : List String}
    {first : Decl}
    {groups : List Decl}
    {value : Option Expr}
    (notReturn : names.head? ≠ some "return")
    (isNames : IsNameList names)
    (firstNames : first.idents = names)
    (head : groups.head? = some first)
    (areGroups : ∀ decl ∈ groups, decl.IsGroup)
    (isValue : ∀ initial ∈ value, initial.IsValue)
    (pos : Pos) :
    (Stmt.decl pos groups value).WellFormed := by
  rcases List.head?_eq_some_iff.1 head with ⟨others, rfl⟩
  refine ⟨List.cons_ne_nil _ _, ?_, .inl ⟨areGroups, isValue⟩⟩
  rcases List.exists_cons_of_ne_nil isNames.1 with ⟨name, further, rfl⟩
  rw [declaredNames, List.flatMap_cons, firstNames]
  exact notReturn

/-- A declaration whose names and colon have been read. -/
theorem reads_of_declStmt
    {names : List String}
    {middle : Cursor}
    {result : Stmt}
    (atToken : start.AtToken)
    (isNames : IsNameList names)
    (notReturn : names.head? ≠ some "return")
    (begun : Reads start (spellNames names) middle)
    (colon : Reads middle [(Token.symbol ":").bare] cursor)
    (read : declStmt start.pos names cursor = .ok result after) :
    result.WellFormed ∧ Reads start result.spelling after := by
  rcases exists_of_bind_eq_ok read with ⟨equals, afterTest, test, rest⟩
  rcases accept_of_atSymbol test with ⟨rfl, last, accepting⟩
  cases equals with
  | true =>
      rcases exists_of_bind_eq_ok rest with ⟨value, valueEnd, readValue, rest⟩
      cases rest
      rcases reads_of_initializer? readValue with ⟨isValue, passed, _, equals⟩
      rw [accepting] at equals
      injection equals with present
      rcases Option.isSome_iff_exists.1 present.symm with ⟨initial, rfl⟩
      constructor
      · exact wellFormed_of_inferred isNames notReturn (isValue initial rfl) _ _
      · rw [Stmt.spelling,
          spellDecls_of_inferred (isInferred_map_single isNames _),
          declaredNames_map_single]
        have declared := (begun.append colon).beginning
          ((names.map fun name => (⟨start.pos, [name], none⟩ : Decl)).map
            Decl.pos) atToken (by simp)
        exact (declared.append (.of_skipBlanks passed)).beginning
          [start.pos] atToken (by simp)
  | false =>
      rcases exists_of_bind_eq_ok rest with ⟨type, typeEnd, readType, rest⟩
      rcases exists_of_bind_eq_ok rest with
        ⟨groups, groupsEnd, readGroups, rest⟩
      rcases exists_of_bind_eq_ok rest with ⟨value, valueEnd, readValue, rest⟩
      cases rest
      rcases typeRef_readsAs _ _ _ readType with ⟨isType, typePassed⟩
      have firstPassed : Reads start
          (Decl.spelling ⟨start.pos, names, some type⟩) typeEnd :=
        (begun.append (colon.append (.of_skipBlanks typePassed))).beginning
          [start.pos] atToken (by simp)
      have firstGroup : Decl.IsGroup ⟨start.pos, names, some type⟩ :=
        ⟨isNames, type, rfl, isType⟩
      rcases reads_of_decls firstGroup firstPassed readGroups with
        ⟨areGroups, first, groupsPassed⟩
      rcases reads_of_initializer? readValue with ⟨isValue, valuePassed, -⟩
      have nonempty : groups ≠ [] := by
        rintro rfl
        cases first
      constructor
      · exact wellFormed_of_groups notReturn isNames rfl first areGroups
          isValue _
      · rw [Stmt.spelling, spellDecls_of_groups nonempty areGroups]
        exact (groupsPassed.append valuePassed).beginning
          [start.pos] atToken (by simp)

/-- A statement whose first name has been read and is not `return`. -/
theorem reads_of_namesStmt
    {first : String}
    {result : Stmt}
    (atToken : start.AtToken)
    (isName : IsName first)
    (notReturn : first ≠ "return")
    (begun : Reads start [(Token.word first).bare] cursor)
    (read : namesStmt start.pos first cursor = .ok result after) :
    result.WellFormed ∧ Reads start result.spelling after := by
  rcases exists_of_bind_eq_ok read with ⟨names, namesEnd, readNames, rest⟩
  rcases reads_of_idents isName begun readNames with
    ⟨isNames, head, namesPassed⟩
  have namesNotReturn : names.head? ≠ some "return" := by
    rw [head]
    exact fun same => notReturn (Option.some.inj same)
  rcases exists_of_bind_eq_ok rest with ⟨call, callEnd, callTest, rest⟩
  rcases accept_of_atSymbol callTest with ⟨rfl, -⟩
  cases call with
  | true =>
      cases rest
  | false =>
      rcases exists_of_bind_eq_ok rest with
        ⟨equals, equalsEnd, equalsTest, rest⟩
      cases equals with
      | true =>
          rcases exists_of_bind_eq_ok rest with
            ⟨value, valueEnd, readValue, rest⟩
          cases rest
          rcases expr_readsAs _ _ _ readValue with ⟨isValue, valuePassed⟩
          refine ⟨⟨isNames, namesNotReturn, isValue⟩, ?_⟩
          have equalsPassed := reads_of_accept equalsTest
          exact (namesPassed.append
            ((Reads.of_skipBlanks equalsPassed).append valuePassed)).beginning
              [start.pos] atToken (by simp)
      | false =>
          have equalsEnds := eq_skipBlanks_of_accept equalsTest
          rw [Cursor.skipBlanks_skipBlanks] at equalsEnds
          rcases exists_of_bind_eq_ok rest with
            ⟨colon, colonEnd, colonTest, rest⟩
          rw [equalsEnds] at colonTest
          cases colon with
          | false =>
              cases rest
          | true =>
              have colonPassed := reads_of_accept colonTest
              exact reads_of_declStmt atToken isNames namesNotReturn namesPassed
                (.of_skipBlanks colonPassed) rest

/-- Where no comma comes next, nothing is read. -/
theorem afterCommas_eq_nil
    {item : Parser α}
    (noComma : cursor.skipBlanks.atSymbol [','] = false) :
    afterCommas item cursor = .ok [] cursor.skipBlanks := by
  have refused : accept "," cursor = .ok false cursor.skipBlanks := by
    rw [accept_eq]
    exact if_neg (by simpa using noComma)
  exact repeated_of_none (bind_eq_of_ok refused _) _

/-- A list of names in front of a parenthesis would be a call. -/
theorem namesStmt_of_call
    {pos : Pos}
    {first : String}
    (call : cursor.skipBlanks.atSymbol ['('] = true) :
    namesStmt pos first cursor =
      .error ⟨.callStatement, pos⟩ cursor.skipBlanks := by
  have noComma : cursor.skipBlanks.atSymbol [','] = false := by
    have next := (Cursor.atSymbol_char (by decide)).1 call
    rw [← Bool.not_eq_true, Cursor.atSymbol_char (by decide), next]
    decide
  have single : idents first cursor = .ok [first] cursor.skipBlanks :=
    bind_eq_of_ok (afterCommas_eq_nil noComma) _
  have called : atSymbol "(" cursor.skipBlanks = .ok true cursor.skipBlanks := by
    rw [atSymbol_eq, Cursor.skipBlanks_skipBlanks]
    exact congrArg (EStateM.Result.ok · _) call
  rw [namesStmt, bind_eq_of_ok single, bind_eq_of_ok called]
  rfl

theorem stmt_readsAs : ReadsAs stmt Stmt.WellFormed Stmt.spelling := by
  intro cursor result after read
  rcases exists_of_bind_eq_ok read with ⟨pos, middle, begun, rest⟩
  cases begun
  rcases exists_of_bind_eq_ok rest with ⟨first, firstEnd, readFirst, rest⟩
  rcases reads_of_ident readFirst with ⟨isName, firstPassed⟩
  rcases exists_of_bind_eq_ok rest with ⟨returns, wordEnd, test, rest⟩
  by_cases isReturn : first = "return"
  · subst isReturn
    rcases exists_of_bind_eq_ok test with ⟨call, callEnd, callTest, answer⟩
    cases answer
    rw [atSymbol_eq] at callTest
    injection callTest with seen wordEnds
    cases call with
    | true =>
        have isCall : namesStmt cursor.skipBlanks.pos "return" wordEnd =
            .ok result after := rest
        rw [← wordEnds, namesStmt_of_call] at isCall
        · cases isCall
        · rwa [Cursor.skipBlanks_skipBlanks]
    | false =>
        rcases exists_of_bind_eq_ok rest with ⟨value, valueEnd, readValue, rest⟩
        cases rest
        rcases expr_readsAs _ _ _ readValue with ⟨isValue, valuePassed⟩
        rw [← wordEnds] at valuePassed
        have wordPassed := firstPassed.beginning [cursor.skipBlanks.pos]
          cursor.atToken_skipBlanks (by simp)
        exact ⟨isValue, .of_skipBlanks
          (wordPassed.append (.of_skipBlanks valuePassed))⟩
  · rw [beginsReturn, if_neg isReturn] at test
    cases test
    rcases
        reads_of_namesStmt
          cursor.atToken_skipBlanks isName isReturn firstPassed rest with
      ⟨wellFormed, passed⟩
    exact ⟨wellFormed, .of_skipBlanks passed⟩

/-! ## Functions -/

theorem params_readsAs :
    ReadsAs params (fun groups => ∀ decl ∈ groups, decl.IsGroup)
      (fun groups => commaBetween (groups.map Decl.spelling)) := by
  intro cursor groups after read
  rcases exists_of_bind_eq_ok read with ⟨closed, middle, test, rest⟩
  rw [atSymbol_eq] at test
  injection test with seen testEnds
  cases closed with
  | true =>
      cases rest
      rw [← testEnds]
      exact ⟨List.forall_mem_nil _, .skipBlanks _⟩
  | false =>
      rcases exists_of_bind_eq_ok rest with ⟨first, firstEnd, readFirst, rest⟩
      rw [← testEnds] at readFirst
      rcases decl_readsAs _ _ _ readFirst with ⟨isGroup, firstPassed⟩
      rcases reads_of_decls isGroup firstPassed rest with ⟨areGroups, -, passed⟩
      exact ⟨areGroups, .of_skipBlanks passed⟩

theorem rets_readsAs :
    ReadsAs rets (fun types => ∀ type ∈ types, IsName type.name)
      spellRets := by
  intro cursor types after read
  rcases exists_of_bind_eq_ok read with ⟨arrow, middle, test, rest⟩
  cases arrow with
  | false =>
      cases rest
      rw [eq_skipBlanks_of_accept test]
      exact ⟨List.forall_mem_nil _, .skipBlanks _⟩
  | true =>
      rcases exists_of_bind_eq_ok rest with ⟨first, firstEnd, readFirst, rest⟩
      rcases exists_of_bind_eq_ok rest with
        ⟨others, othersEnd, readOthers, rest⟩
      cases rest
      rcases typeRef_readsAs _ _ _ readFirst with ⟨isName, firstPassed⟩
      rcases afterCommas_readsAs typeRef_readsAs _ _ _ readOthers with
        ⟨areNames, othersPassed⟩
      have arrowPassed := reads_of_accept test
      exact ⟨List.forall_mem_cons.2 ⟨isName, areNames⟩,
        arrowPassed.append (firstPassed.append othersPassed)⟩

/-- A step of a body that gives a statement has passed it. -/
theorem reads_of_bodyStep
    {result : Stmt}
    (read : bodyStep cursor = .ok (some result) after) :
    result.WellFormed ∧ Reads cursor result.spelling after := by
  rcases exists_of_bind_eq_ok read with ⟨closed, middle, test, rest⟩
  cases closed with
  | true =>
      cases rest
  | false =>
      rcases exists_of_bind_eq_ok rest with ⟨ended, endEnd, endTest, rest⟩
      rw [atEnd_eq] at endTest
      injection endTest with empty endEnds
      cases ended with
      | true =>
          cases rest
      | false =>
          rcases exists_of_bind_eq_ok rest with ⟨next, nextEnd, readNext, rest⟩
          cases rest
          rw [← endEnds, eq_skipBlanks_of_accept test] at readNext
          rcases stmt_readsAs _ _ _ readNext with ⟨wellFormed, passed⟩
          exact ⟨wellFormed, .of_skipBlanks (.of_skipBlanks passed)⟩

/-- The statements of a body and the brace behind them. -/
theorem reads_of_body
    {body : List Stmt}
    (read : many bodyStep cursor = .ok body after) :
    (∀ stmt ∈ body, stmt.WellFormed) ∧
      Reads cursor
        (body.flatMap Stmt.spelling ++ [(Token.symbol "\x7d").bare])
        after := by
  refine reads_of_repeated (fun _ _ _ => reads_of_bodyStep) ?_ read
  intro cursor after stepped
  rcases exists_of_bind_eq_ok stepped with ⟨closed, middle, test, rest⟩
  cases closed with
  | true =>
      cases rest
      exact reads_of_accept test
  | false =>
      rcases exists_of_bind_eq_ok rest with ⟨ended, endEnd, -, rest⟩
      cases ended with
      | true =>
          cases rest
      | false =>
          rcases exists_of_bind_eq_ok rest with ⟨next, nextEnd, -, rest⟩
          cases rest

/-- A function up to the brace that opens its body, which is left empty. -/
def header : Parser Function := do
  let pos ← here
  require "fn"
  let name ← ident "function name"
  require "("
  let params ← params
  require ")"
  let rets ← rets
  require "\x7b"
  return ⟨pos, name, params, rets, []⟩

/-- A function is its header and a body behind which the text ends. -/
theorem function_eq :
    function =
      (do
        let head ← header
        let body ← many bodyStep
        if ← atEnd then
          return { head with body }
        else
          failExpecting "end of input") := by
  simp only [function, header, bind_assoc, pure_bind]

/-- The spelling of a function up to the brace that opens its body. -/
def headSpelling (head : Function) : List Lexeme :=
  ⟨.word "fn", [head.pos]⟩ ::
    (Token.word head.name).bare ::
    (Token.symbol "(").bare ::
    (commaBetween (head.params.map Decl.spelling) ++
      (Token.symbol ")").bare ::
      (spellRets head.rets ++ [(Token.symbol "\x7b").bare]))

theorem spelling_eq_headSpelling (tree : Function) :
    tree.spelling =
      headSpelling tree ++
        (tree.body.flatMap Stmt.spelling ++ [(Token.symbol "\x7d").bare]) := by
  simp [Function.spelling, headSpelling]

/-- A function is well formed as far as its header goes. -/
structure IsHeader (head : Function) : Prop where
  name : IsName head.name
  params : ∀ decl ∈ head.params, decl.IsGroup
  rets : ∀ type ∈ head.rets, IsName type.name

theorem header_readsAs : ReadsAs header IsHeader headSpelling := by
  intro cursor head after read
  rcases exists_of_bind_eq_ok read with ⟨pos, middle, begun, rest⟩
  cases begun
  rcases exists_of_bind_eq_ok rest with ⟨⟨⟩, fnEnd, readFn, rest⟩
  rcases exists_of_bind_eq_ok rest with ⟨name, nameEnd, readName, rest⟩
  rcases exists_of_bind_eq_ok rest with ⟨⟨⟩, openEnd, readOpen, rest⟩
  rcases exists_of_bind_eq_ok rest with ⟨groups, groupsEnd, readGroups, rest⟩
  rcases exists_of_bind_eq_ok rest with ⟨⟨⟩, closeEnd, readClose, rest⟩
  rcases exists_of_bind_eq_ok rest with ⟨types, typesEnd, readTypes, rest⟩
  rcases exists_of_bind_eq_ok rest with ⟨⟨⟩, braceEnd, readBrace, rest⟩
  cases rest
  rcases reads_of_ident readName with ⟨isName, namePassed⟩
  rcases params_readsAs _ _ _ readGroups with ⟨areGroups, groupsPassed⟩
  rcases rets_readsAs _ _ _ readTypes with ⟨areTypes, typesPassed⟩
  have fnPassed :=
    (reads_of_accept_word rfl (accept_of_require readFn)).beginning
      [cursor.skipBlanks.pos] cursor.atToken_skipBlanks (by simp)
  have openPassed := reads_of_accept (accept_of_require readOpen)
  have closePassed := reads_of_accept (accept_of_require readClose)
  have bracePassed := reads_of_accept (accept_of_require readBrace)
  refine ⟨⟨isName, areGroups, areTypes⟩, .of_skipBlanks ?_⟩
  have whole := fnPassed.append (namePassed.append (openPassed.append
    (groupsPassed.append (closePassed.append (typesPassed.append
      bracePassed)))))
  simpa [headSpelling, Sprig.beginning] using whole

/-- A function is read up to the end of its text. -/
theorem reads_of_function
    {result : Function}
    (read : function cursor = .ok result after) :
    result.WellFormed ∧ Reads cursor result.spelling after ∧
      after.rest = [] := by
  rw [function_eq] at read
  rcases exists_of_bind_eq_ok read with ⟨head, headEnd, readHead, rest⟩
  rcases exists_of_bind_eq_ok rest with ⟨body, bodyEnd, readBody, rest⟩
  rcases header_readsAs _ _ _ readHead with ⟨isHeader, headPassed⟩
  rcases reads_of_body readBody with ⟨areStmts, bodyPassed⟩
  rw [bind_eq_of_ok (atEnd_eq _)] at rest
  split at rest
  next empty =>
    cases rest
    refine ⟨⟨isHeader.name, isHeader.params, isHeader.rets, areStmts⟩, ?_,
      List.isEmpty_iff.1 empty⟩
    rw [spelling_eq_headSpelling]
    have whole := headPassed.append (bodyPassed.append (.skipBlanks bodyEnd))
    rwa [List.append_nil] at whole
  next =>
    cases rest

end Parser

/-- A source that parses has been passed to its end, token by token. -/
theorem exists_reads_of_parse
    {source : String}
    {function : Function}
    (parsed : parse source = .ok function) :
    function.WellFormed ∧
      ∃ after,
        Reads (Cursor.start source) function.spelling after ∧
          after.rest = [] := by
  rw [parse] at parsed
  split at parsed
  next result after read =>
    cases parsed
    rcases Parser.reads_of_function read with ⟨wellFormed, passed, atEnd⟩
    exact ⟨wellFormed, after, passed, atEnd⟩
  next error after read =>
    cases parsed

/-- A source that parses is a layout of the function that it spells. -/
theorem exists_layout_of_parse
    {source : String}
    {function : Function}
    (parsed : parse source = .ok function) :
    function.WellFormed ∧
      ∃ layout : Layout,
        layout.text = source.toList ∧
        layout.tokens = function.tokens ∧
        PlacedAt source.toList layout.offsets function.spelling := by
  rcases exists_reads_of_parse parsed with ⟨wellFormed, after, passed, atEnd⟩
  rcases passed.exists_layout atEnd with ⟨layout, text, tokens, placed⟩
  refine ⟨wellFormed, layout, text, tokens, ?_⟩
  intro lexeme member pos claimed
  rw [placed lexeme member pos claimed]
  exact pos_advanceAll_start _

/--
Nothing is lost and nothing is invented: the function is well formed, its
tokens stand in the source in order and are exactly what is not blank there,
and every node is positioned at its first token.
-/
theorem tokens_cover_parsed_source
    {source : String}
    {function : Function}
    (parsed : parse source = .ok function) :
    function.WellFormed ∧
      ∃ layout : Layout,
        layout.text = source.toList ∧
        layout.tokens = function.tokens ∧
        Covers source.toList layout.offsets function.tokens ∧
        PlacedAt source.toList layout.offsets function.spelling := by
  rcases exists_layout_of_parse parsed with
    ⟨wellFormed, layout, text, tokens, placed⟩
  have solid : ∀ token ∈ layout.tokens, token.Solid := by
    rw [tokens]
    exact wellFormed.solid
  have covers := layout.covers solid
  rw [text, tokens] at covers
  exact ⟨wellFormed, layout, text, tokens, covers, placed⟩

/-- A number may be followed directly by the next statement. -/
theorem tokens_cover_parsed_source_dense :
    ∃ function : Function,
      parse "fn f(a: int)\x7by:=1z, w: int=a,2\x7d" = .ok function ∧
        function.WellFormed ∧
        ∃ layout : Layout,
          layout.text = "fn f(a: int)\x7by:=1z, w: int=a,2\x7d".toList ∧
          layout.tokens = function.tokens ∧
          Covers "fn f(a: int)\x7by:=1z, w: int=a,2\x7d".toList
            layout.offsets function.tokens ∧
          PlacedAt "fn f(a: int)\x7by:=1z, w: int=a,2\x7d".toList
            layout.offsets function.spelling := by
  have parsed : parse "fn f(a: int)\x7by:=1z, w: int=a,2\x7d" =
      .ok
        ⟨⟨1, 1⟩, "f", [⟨⟨1, 6⟩, ["a"], some ⟨⟨1, 9⟩, "int"⟩⟩], [],
          [ .decl ⟨1, 14⟩ [⟨⟨1, 14⟩, ["y"], none⟩]
              (some (.intLit ⟨1, 17⟩ "1")),
            .decl ⟨1, 18⟩
              [⟨⟨1, 18⟩, ["z", "w"], some ⟨⟨1, 24⟩, "int"⟩⟩]
              (some (.tuple ⟨1, 28⟩
                [.var ⟨1, 28⟩ "a", .intLit ⟨1, 30⟩ "2"])) ]⟩ := by
    decide +kernel
  exact ⟨_, parsed, tokens_cover_parsed_source parsed⟩

end Sprig
