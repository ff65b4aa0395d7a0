import Sprig.Proofs.Parser.Completeness

/-!
# A failure comes at the first token that does not fit

What a failing reader has passed can be completed.  `Viable` states this for
one reader: the fault is charged to the token at which the reader stops, and
the way to it passes the first tokens of something that the reader would have
accepted.  The tokens that are missing are made up, one choice for each place
of the grammar at which something can be expected.

A statement has one more way to fail.  A list of names in front of a
parenthesis would be a call, and its fault is charged to the beginning of the
statement, in front of which the body could have been closed.

Loops never run out of rounds, so no other failure is possible.
-/

namespace Sprig

open Sprig.Text

/-- A fault that is charged to the token at which a reader stops. -/
structure Misfit (error : SyntaxError) (after : Cursor) : Prop where
  atToken : after.AtToken
  expected : ∃ what, error = ⟨.expected what after.lookahead, after.pos⟩

/-- A way that passes the first of some tokens. -/
def ReadsPart (cursor : Cursor) (tokens : List Token) (after : Cursor) : Prop :=
  ∃ lexemes rest,
    Reads cursor lexemes after ∧ lexemes.map Lexeme.token ++ rest = tokens

namespace ReadsPart

variable {cursor middle after : Cursor}
variable {lexemes : List Lexeme}
variable {tokens : List Token}

/-- Nothing but blanks has been passed. -/
theorem skipBlanks (cursor : Cursor) (tokens : List Token) :
    ReadsPart cursor tokens cursor.skipBlanks :=
  ⟨[], tokens, .skipBlanks cursor, rfl⟩

/-- The first tokens after others. -/
theorem behind
    (reads : Reads cursor lexemes middle)
    (part : ReadsPart middle tokens after) :
    ReadsPart cursor (lexemes.map Lexeme.token ++ tokens) after := by
  rcases part with ⟨further, rest, readsOn, rfl⟩
  refine ⟨lexemes ++ further, rest, reads.append readsOn, ?_⟩
  rw [List.map_append, List.append_assoc]

/-- Some more tokens are missing. -/
theorem extend
    (part : ReadsPart cursor tokens after)
    (more : List Token) :
    ReadsPart cursor (tokens ++ more) after := by
  rcases part with ⟨lexemes, rest, reads, rfl⟩
  exact ⟨lexemes, rest ++ more, reads, (List.append_assoc _ _ _).symm⟩

/-- Blanks in front of a way belong to it. -/
theorem of_skipBlanks (part : ReadsPart cursor.skipBlanks tokens after) :
    ReadsPart cursor tokens after :=
  behind (.skipBlanks cursor) part

end ReadsPart

namespace Parser

variable {α : Type}
variable {cursor after start : Cursor}
variable {error : SyntaxError}

/-- A reader fails after the first tokens of something good. -/
def Viable
    (reader : Parser α)
    (good : α → Prop)
    (spelling : α → List Lexeme) : Prop :=
  ∀ cursor error after, reader cursor = .error error after →
    Misfit error after ∧
      ∃ tree, good tree ∧
        ReadsPart cursor ((spelling tree).map Lexeme.token) after

/-! ## Tokens -/

theorem misfit_of_failExpecting
    {what : String}
    (fails : (failExpecting what : Parser α) cursor = .error error after) :
    Misfit error after ∧ after = cursor.skipBlanks := by
  cases fails
  exact ⟨⟨cursor.atToken_skipBlanks, what, rfl⟩, rfl⟩

theorem accept_ne_error (symbol : String) :
    accept symbol cursor ≠ .error error after := by
  rw [accept_eq]
  split
  · nofun
  · nofun

theorem ident?_ne_error : ident? cursor ≠ .error error after := by
  rw [ident?_eq]
  split
  · nofun
  · nofun

theorem numeral?_ne_error : numeral? cursor ≠ .error error after := by
  rw [numeral?_eq]
  split
  · nofun
  · nofun

/-- Where no name comes next, nothing but blanks has been passed. -/
theorem eq_skipBlanks_of_ident?
    (read : ident? cursor = .ok none after) :
    after = cursor.skipBlanks := by
  rw [ident?_eq] at read
  split at read
  next =>
    cases read
  next =>
    cases read
    rfl

theorem misfit_of_ident
    {what : String}
    (fails : ident what cursor = .error error after) :
    Misfit error after ∧ after = cursor.skipBlanks := by
  rcases fails_of_bind_eq_error fails with fails | ⟨found, middle, read, rest⟩
  · exact (ident?_ne_error fails).elim
  · cases found with
    | some name =>
        cases rest
    | none =>
        rcases eq_skipBlanks_of_ident? read with rfl
        rcases misfit_of_failExpecting rest with ⟨misfit, rfl⟩
        exact ⟨misfit, cursor.skipBlanks_skipBlanks⟩

theorem misfit_of_require
    {symbol : String}
    (fails : require symbol cursor = .error error after) :
    Misfit error after ∧ after = cursor.skipBlanks := by
  rcases fails_of_bind_eq_error fails with fails | ⟨found, middle, read, rest⟩
  · exact (accept_ne_error symbol fails).elim
  · cases found with
    | true =>
        cases rest
    | false =>
        rcases eq_skipBlanks_of_accept read with rfl
        rcases misfit_of_failExpecting rest with ⟨misfit, rfl⟩
        exact ⟨misfit, cursor.skipBlanks_skipBlanks⟩

theorem ident_viable (what : String) :
    Viable (ident what) IsName fun name => [(Token.word name).bare] := by
  intro cursor error after fails
  rcases misfit_of_ident fails with ⟨misfit, rfl⟩
  exact ⟨misfit, "x", by decide, .skipBlanks cursor _⟩

/-! ## Lists -/

/-- A repetition fails where one of its steps does, after some results. -/
theorem repeated_fails
    {step : Parser (Option α)}
    {good : α → Prop}
    {spelling : α → List Lexeme}
    (advancing : Advancing step)
    (item : ∀ cursor result after,
      step cursor = .ok (some result) after →
        good result ∧ Reads cursor (spelling result) after)
    {rounds : Nat}
    (enough : cursor.rest.length < rounds)
    (fails : repeated step rounds cursor = .error error after) :
    ∃ (results : List α) (middle : Cursor),
      (∀ result ∈ results, good result) ∧
        Reads cursor (results.flatMap spelling) middle ∧
        step middle = .error error after := by
  induction rounds generalizing cursor with
  | zero =>
      exact (Nat.not_lt_zero _ enough).elim
  | succ rounds ih =>
      rcases fails_of_bind_eq_error fails with
        stepFails | ⟨found, middle, stepped, rest⟩
      · exact ⟨[], cursor, List.forall_mem_nil _, .done cursor, stepFails⟩
      · cases found with
        | none =>
            cases rest
        | some result =>
            have consumed := advancing cursor result middle stepped
            rcases item cursor result middle stepped with ⟨resultGood, passed⟩
            rcases fails_of_bind_eq_error rest with
              othersFail | ⟨others, later, -, rest⟩
            · rcases ih (by omega) othersFail with
                ⟨results, last, areGood, further, stepFails⟩
              exact ⟨result :: results, last,
                List.forall_mem_cons.2 ⟨resultGood, areGood⟩,
                passed.append further, stepFails⟩
            · cases rest

/-- A loop has rounds for every character that is ahead. -/
theorem many_fails
    {step : Parser (Option α)}
    {good : α → Prop}
    {spelling : α → List Lexeme}
    (advancing : Advancing step)
    (item : ∀ cursor result after,
      step cursor = .ok (some result) after →
        good result ∧ Reads cursor (spelling result) after)
    (fails : many step cursor = .error error after) :
    ∃ (results : List α) (middle : Cursor),
      (∀ result ∈ results, good result) ∧
        Reads cursor (results.flatMap spelling) middle ∧
        step middle = .error error after :=
  repeated_fails advancing item (Nat.lt_succ_self _) fails

/-- A list after commas fails in one of its items. -/
theorem afterCommas_viable
    {item : Parser α}
    {good : α → Prop}
    {spelling : α → List Lexeme}
    (forward : Forward item)
    (reads : ReadsAs item good spelling)
    (viable : Viable item good spelling) :
    Viable (afterCommas item)
      (fun results => ∀ result ∈ results, good result)
      (fun results => commaBefore (results.map spelling)) := by
  intro cursor error after fails
  rcases
      many_fails (advancing_commaItem forward)
        (fun _ _ _ => reads_of_commaItem reads) fails with
    ⟨results, middle, areGood, passed, stepFails⟩
  rcases fails_of_bind_eq_error stepFails with
    commaFails | ⟨accepted, later, comma, rest⟩
  · exact (accept_ne_error _ commaFails).elim
  · cases accepted with
    | false =>
        cases rest
    | true =>
        rcases fails_of_bind_eq_error rest with
          itemFails | ⟨value, last, -, rest⟩
        · rcases viable later error after itemFails with
            ⟨misfit, tree, isGood, part⟩
          refine ⟨misfit, results ++ [tree], ?_, ?_⟩
          · exact List.forall_mem_append.2
              ⟨areGood, List.forall_mem_singleton.2 isGood⟩
          · have whole :=
              ReadsPart.behind (passed.append (reads_of_accept comma)) part
            beta_reduce
            rw [commaBefore_map, List.flatMap_append]
            simpa using whole
        · cases rest

/-! ## Names, types and groups -/

theorem typeRef_viable :
    Viable typeRef (fun type => IsName type.name) TypeRef.spelling := by
  intro cursor error after fails
  rw [typeRef, bind_eq_of_ok (here_eq cursor)] at fails
  rcases fails_of_bind_eq_error fails with nameFails | ⟨name, middle, -, rest⟩
  · rcases misfit_of_ident nameFails with ⟨misfit, rfl⟩
    rw [cursor.skipBlanks_skipBlanks] at misfit ⊢
    exact ⟨misfit, ⟨.nowhere, "int"⟩, by decide, .skipBlanks cursor _⟩
  · cases rest

/-- A list of names whose first name has been read. -/
theorem names_of_idents_fails
    {first : String}
    (isName : IsName first)
    (begun : Reads start [(Token.word first).bare] cursor)
    (fails : idents first cursor = .error error after) :
    Misfit error after ∧
      ∃ names, IsNameList names ∧ names.head? = some first ∧
        ReadsPart start ((spellNames names).map Lexeme.token) after := by
  have identReads : ReadsAs (ident "identifier") IsName
      fun name => [(Token.word name).bare] :=
    fun _ _ _ => reads_of_ident
  rcases fails_of_bind_eq_error fails with
    othersFail | ⟨others, middle, -, rest⟩
  · rcases
        afterCommas_viable forwardness.holds_name identReads (ident_viable _)
          cursor error after othersFail with
      ⟨misfit, others, areNames, part⟩
    refine ⟨misfit, first :: others, ⟨List.cons_ne_nil _ _, ?_⟩, rfl, ?_⟩
    · exact List.forall_mem_cons.2 ⟨isName, areNames⟩
    · exact .behind begun part
  · cases rest

/-- The tokens of names and of what follows them up to a type. -/
theorem tokens_group
    (names : List String)
    (type : TypeRef) :
    (Decl.spelling ⟨.nowhere, names, some type⟩).map Lexeme.token =
      (spellNames names).map Lexeme.token ++
        [.symbol ":", .word type.name] := by
  rw [Decl.spelling, map_token_beginning, List.map_append]
  rfl

theorem decl_viable : Viable decl Decl.IsGroup Decl.spelling := by
  intro cursor error after fails
  have isInt : IsName "int" := by decide
  rw [decl, bind_eq_of_ok (here_eq cursor)] at fails
  rcases fails_of_bind_eq_error fails with
    firstFails | ⟨first, firstEnd, readFirst, rest⟩
  · rcases misfit_of_ident firstFails with ⟨misfit, rfl⟩
    rw [cursor.skipBlanks_skipBlanks] at misfit ⊢
    exact ⟨misfit, ⟨.nowhere, ["x"], some ⟨.nowhere, "int"⟩⟩, by decide,
      .skipBlanks cursor _⟩
  · rcases reads_of_ident readFirst with ⟨isName, firstPassed⟩
    rcases fails_of_bind_eq_error rest with
      namesFail | ⟨names, namesEnd, readNames, rest⟩
    · rcases names_of_idents_fails isName firstPassed namesFail with
        ⟨misfit, names, isNames, -, part⟩
      refine ⟨misfit, ⟨.nowhere, names, some ⟨.nowhere, "int"⟩⟩,
        ⟨isNames, _, rfl, isInt⟩, .of_skipBlanks ?_⟩
      rw [tokens_group]
      exact part.extend _
    · rcases reads_of_idents isName firstPassed readNames with
        ⟨isNames, -, namesPassed⟩
      rcases fails_of_bind_eq_error rest with
        colonFails | ⟨⟨⟩, colonEnd, readColon, rest⟩
      · rcases misfit_of_require colonFails with ⟨misfit, rfl⟩
        refine ⟨misfit, ⟨.nowhere, names, some ⟨.nowhere, "int"⟩⟩,
          ⟨isNames, _, rfl, isInt⟩, .of_skipBlanks ?_⟩
        rw [tokens_group]
        exact .behind namesPassed (.skipBlanks _ _)
      · have colonPassed := reads_of_accept (accept_of_require readColon)
        rcases fails_of_bind_eq_error rest with
          typeFails | ⟨type, typeEnd, -, rest⟩
        · rcases typeRef_viable _ _ _ typeFails with
            ⟨misfit, type, isType, part⟩
          refine ⟨misfit, ⟨.nowhere, names, some type⟩,
            ⟨isNames, _, rfl, isType⟩, .of_skipBlanks ?_⟩
          rw [tokens_group]
          exact .behind namesPassed (.behind colonPassed part)
        · cases rest

/-- A list of groups whose first group has been read. -/
theorem groups_of_decls_fails
    {first : Decl}
    (isGroup : first.IsGroup)
    (begun : Reads start first.spelling cursor)
    (fails : decls first cursor = .error error after) :
    Misfit error after ∧
      ∃ groups : List Decl, (∀ decl ∈ groups, decl.IsGroup) ∧
        groups.head? = some first ∧
        ReadsPart start
          ((commaBetween (groups.map Decl.spelling)).map Lexeme.token)
          after := by
  rcases fails_of_bind_eq_error fails with
    othersFail | ⟨others, middle, -, rest⟩
  · rcases
        afterCommas_viable forwardness.holds_decl decl_readsAs decl_viable
          cursor error after othersFail with
      ⟨misfit, others, areGroups, part⟩
    refine ⟨misfit, first :: others, ?_, rfl, ?_⟩
    · exact List.forall_mem_cons.2 ⟨isGroup, areGroups⟩
    · rw [List.map_cons, commaBetween, List.map_append]
      exact .behind begun part
  · cases rest

/-! ## Values -/

theorem atom_viable : Viable atom Expr.IsAtom Expr.atomSpelling := by
  intro cursor error after fails
  rw [atom, bind_eq_of_ok (here_eq cursor)] at fails
  rcases fails_of_bind_eq_error fails with
    numberFails | ⟨number, numberEnd, readNumber, rest⟩
  · exact (numeral?_ne_error numberFails).elim
  · cases number with
    | some text =>
        cases rest
    | none =>
        rcases eq_skipBlanks_of_numeral? readNumber with ⟨rfl, -⟩
        rcases fails_of_bind_eq_error rest with
          nameFails | ⟨found, nameEnd, readName, rest⟩
        · exact (ident?_ne_error nameFails).elim
        · cases found with
          | some name =>
              cases rest
          | none =>
              rcases eq_skipBlanks_of_ident? readName with rfl
              rcases misfit_of_failExpecting rest with ⟨misfit, rfl⟩
              simp only [Cursor.skipBlanks_skipBlanks] at misfit ⊢
              exact ⟨misfit, .intLit .nowhere "1", by decide,
                .skipBlanks cursor _⟩

theorem expr_viable :
    Viable (expr tuplePrec) Expr.IsValue Expr.spelling := by
  intro cursor error after fails
  rcases fails_of_bind_eq_error fails with
    firstFails | ⟨first, middle, readFirst, rest⟩
  · rcases atom_viable _ _ _ firstFails with ⟨misfit, tree, isAtom, part⟩
    rcases atomSpelling_eq_spelling isAtom with ⟨isValue, spelling⟩
    rw [← spelling] at part
    exact ⟨misfit, tree, isValue, part⟩
  · rw [if_neg (Int.lt_irrefl _)] at rest
    rcases atom_readsAs _ _ _ readFirst with ⟨isAtom, firstPassed⟩
    rw [bind_eq_of_ok (atSymbol_eq _ _)] at rest
    split at rest
    next =>
      rcases fails_of_bind_eq_error rest with
        othersFail | ⟨others, finish, -, rest⟩
      · rcases
            afterCommas_viable forwardness.holds_atom atom_readsAs atom_viable
              _ _ _ othersFail with
          ⟨misfit, others, areAtoms, part⟩
        refine ⟨misfit, ?_⟩
        have whole := ReadsPart.behind firstPassed part.of_skipBlanks
        cases others with
        | nil =>
            rcases atomSpelling_eq_spelling isAtom with ⟨isValue, spelling⟩
            refine ⟨first, isValue, ?_⟩
            rw [spelling]
            simpa [commaBefore] using whole
        | cons second others =>
            refine ⟨.tuple .nowhere (first :: second :: others), ⟨?_, ?_⟩, ?_⟩
            · simp
            · exact List.forall_mem_cons.2 ⟨isAtom, areAtoms⟩
            · rw [Expr.spelling, map_token_beginning, List.map_cons,
                commaBetween, List.map_append]
              exact whole
      · cases rest
    next =>
      cases rest

/-- An initializer fails behind its equals sign. -/
theorem initializer_of_initializer?_fails
    (fails : initializer? cursor = .error error after) :
    Misfit error after ∧
      ∃ value : Expr, value.IsValue ∧
        ReadsPart cursor ((spellInitializer (some value)).map Lexeme.token)
          after := by
  rcases fails_of_bind_eq_error fails with
    equalsFails | ⟨accepted, middle, equals, rest⟩
  · exact (accept_ne_error _ equalsFails).elim
  · cases accepted with
    | false =>
        cases rest
    | true =>
        rcases fails_of_bind_eq_error rest with
          valueFails | ⟨value, later, -, rest⟩
        · rcases expr_viable _ _ _ valueFails with
            ⟨misfit, value, isValue, part⟩
          exact ⟨misfit, value, isValue, .behind (reads_of_accept equals) part⟩
        · cases rest

/-! ## Statements -/

/-- The tokens of a declaration without annotations. -/
theorem tokens_inferred
    {names : List String}
    (isNames : IsNameList names)
    (value : Expr) :
    (Stmt.decl .nowhere (names.map fun name => ⟨.nowhere, [name], none⟩)
        (some value)).spelling.map Lexeme.token =
      (spellNames names).map Lexeme.token ++ Token.symbol ":" ::
        (spellInitializer (some value)).map Lexeme.token := by
  rw [Stmt.spelling, map_token_beginning, List.map_append,
    spellDecls_of_inferred (isInferred_map_single isNames _),
    map_token_beginning, declaredNames_map_single, List.map_append,
    List.append_assoc]
  rfl

/-- The tokens of a declaration in groups. -/
theorem tokens_groups
    {groups : List Decl}
    {first : Decl}
    (head : groups.head? = some first)
    (areGroups : ∀ decl ∈ groups, decl.IsGroup)
    (value : Option Expr) :
    (Stmt.decl .nowhere groups value).spelling.map Lexeme.token =
      (commaBetween (groups.map Decl.spelling)).map Lexeme.token ++
        (spellInitializer value).map Lexeme.token := by
  have nonempty : groups ≠ [] := by
    rintro rfl
    cases head
  rw [Stmt.spelling, map_token_beginning,
    spellDecls_of_groups nonempty areGroups, List.map_append]

/-- The tokens of an assignment. -/
theorem tokens_assign (names : List String) (value : Expr) :
    (Stmt.assign .nowhere names value).spelling.map Lexeme.token =
      (spellNames names).map Lexeme.token ++
        Token.symbol "=" :: value.spelling.map Lexeme.token := by
  rw [Stmt.spelling, map_token_beginning, List.map_append]
  rfl

/-- A declaration whose names and colon have been read. -/
theorem stmt_of_declStmt_fails
    {names : List String}
    {middle : Cursor}
    (atToken : start.AtToken)
    (isNames : IsNameList names)
    (notReturn : names.head? ≠ some "return")
    (begun : Reads start (spellNames names) middle)
    (colon : Reads middle [(Token.symbol ":").bare] cursor)
    (fails : declStmt start.pos names cursor = .error error after) :
    Misfit error after ∧
      ∃ statement : Stmt, statement.WellFormed ∧
        ReadsPart start (statement.spelling.map Lexeme.token) after := by
  have noValue : ∀ initial ∈ (none : Option Expr), initial.IsValue := nofun
  rw [declStmt, bind_eq_of_ok (atSymbol_eq _ _)] at fails
  split at fails
  next =>
    rcases fails_of_bind_eq_error fails with
      valueFails | ⟨value, valueEnd, -, rest⟩
    · rcases initializer_of_initializer?_fails valueFails with
        ⟨misfit, value, isValue, part⟩
      refine ⟨misfit, _,
        wellFormed_of_inferred isNames notReturn isValue .nowhere .nowhere, ?_⟩
      rw [tokens_inferred isNames]
      exact .behind begun (.behind colon part.of_skipBlanks)
    · cases rest
  next =>
    rcases fails_of_bind_eq_error fails with
      typeFails | ⟨type, typeEnd, readType, rest⟩
    · rcases typeRef_viable _ _ _ typeFails with ⟨misfit, type, isType, part⟩
      have isGroup : Decl.IsGroup ⟨.nowhere, names, some type⟩ :=
        ⟨isNames, type, rfl, isType⟩
      have areGroups := List.forall_mem_singleton.2 isGroup
      refine ⟨misfit, .decl .nowhere [⟨.nowhere, names, some type⟩] none,
        wellFormed_of_groups notReturn isNames rfl rfl areGroups noValue _, ?_⟩
      rw [tokens_groups rfl areGroups]
      have whole := ReadsPart.behind begun (.behind colon part.of_skipBlanks)
      simpa [commaBetween, commaBefore, tokens_group, spellInitializer,
        TypeRef.spelling] using whole
    · rcases typeRef_readsAs _ _ _ readType with ⟨isType, typePassed⟩
      have firstGroup : Decl.IsGroup ⟨start.pos, names, some type⟩ :=
        ⟨isNames, type, rfl, isType⟩
      have firstPassed : Reads start
          (Decl.spelling ⟨start.pos, names, some type⟩) typeEnd :=
        (begun.append (colon.append (.of_skipBlanks typePassed))).beginning
          [start.pos] atToken (by simp)
      rcases fails_of_bind_eq_error rest with
        groupsFail | ⟨groups, groupsEnd, readGroups, rest⟩
      · rcases groups_of_decls_fails firstGroup firstPassed groupsFail with
          ⟨misfit, groups, areGroups, head, part⟩
        refine ⟨misfit, _, wellFormed_of_groups notReturn isNames rfl head
          areGroups noValue .nowhere, ?_⟩
        rw [tokens_groups head areGroups]
        exact part.extend _
      · rcases reads_of_decls firstGroup firstPassed readGroups with
          ⟨areGroups, head, groupsPassed⟩
        rcases fails_of_bind_eq_error rest with
          valueFails | ⟨value, valueEnd, -, rest⟩
        · rcases initializer_of_initializer?_fails valueFails with
            ⟨misfit, value, isValue, part⟩
          have isInitial : ∀ initial ∈ some value, initial.IsValue := by
            rintro initial ⟨⟩
            exact isValue
          refine ⟨misfit, _, wellFormed_of_groups notReturn isNames rfl head
            areGroups isInitial .nowhere, ?_⟩
          rw [tokens_groups head areGroups]
          exact .behind groupsPassed part
        · cases rest

/-- A list of names in front of a parenthesis. -/
def CallAt (start after : Cursor) : Prop :=
  ∃ names, IsNameList names ∧ Reads start (spellNames names) after ∧
    after.rest.head? = some '('

/-- What begins a list of names is not `return`. -/
theorem head?_ne_return
    {names : List String}
    {first : String}
    (head : names.head? = some first)
    (notReturn : first ≠ "return") :
    names.head? ≠ some "return" := by
  rw [head]
  exact fun same => notReturn (Option.some.inj same)

/-- A statement whose first name has been read and is not `return`. -/
theorem stmt_of_namesStmt_fails
    {first : String}
    (atToken : start.AtToken)
    (isName : IsName first)
    (notReturn : first ≠ "return")
    (begun : Reads start [(Token.word first).bare] cursor)
    (fails : namesStmt start.pos first cursor = .error error after) :
    (Misfit error after ∧
      ∃ statement : Stmt, statement.WellFormed ∧
        ReadsPart start (statement.spelling.map Lexeme.token) after) ∨
    (error = ⟨.callStatement, start.pos⟩ ∧ CallAt start after) := by
  have isOne : (Expr.intLit .nowhere "1").IsValue := by decide
  rcases fails_of_bind_eq_error fails with
    namesFail | ⟨names, namesEnd, readNames, rest⟩
  · rcases names_of_idents_fails isName begun namesFail with
      ⟨misfit, names, isNames, head, part⟩
    refine .inl ⟨misfit, .assign .nowhere names (.intLit .nowhere "1"),
      ⟨isNames, head?_ne_return head notReturn, isOne⟩, ?_⟩
    rw [tokens_assign]
    exact part.extend _
  · rcases reads_of_idents isName begun readNames with
      ⟨isNames, head, namesPassed⟩
    have namesNotReturn := head?_ne_return head notReturn
    rw [bind_eq_of_ok (atSymbol_eq _ _)] at rest
    split at rest
    next call =>
      cases rest
      refine .inr ⟨rfl, names, isNames, ?_, ?_⟩
      · simpa using namesPassed.append (.skipBlanks namesEnd)
      · exact (Cursor.atSymbol_char (by decide)).1 call
    next =>
      rcases fails_of_bind_eq_error rest with
        equalsFails | ⟨equals, equalsEnd, equalsTest, rest⟩
      · exact (accept_ne_error _ equalsFails).elim
      · cases equals with
        | true =>
            rcases fails_of_bind_eq_error rest with
              valueFails | ⟨value, valueEnd, -, rest⟩
            · rcases expr_viable _ _ _ valueFails with
                ⟨misfit, value, isValue, part⟩
              refine .inl ⟨misfit, .assign .nowhere names value,
                ⟨isNames, namesNotReturn, isValue⟩, ?_⟩
              rw [tokens_assign]
              exact .behind namesPassed
                (.of_skipBlanks (.behind (reads_of_accept equalsTest) part))
            · cases rest
        | false =>
            have equalsEnds := eq_skipBlanks_of_accept equalsTest
            rw [Cursor.skipBlanks_skipBlanks] at equalsEnds
            rcases fails_of_bind_eq_error rest with
              colonFails | ⟨colon, colonEnd, colonTest, rest⟩
            · exact (accept_ne_error _ colonFails).elim
            · rw [equalsEnds] at colonTest
              cases colon with
              | true =>
                  exact .inl (stmt_of_declStmt_fails atToken isNames
                    namesNotReturn namesPassed
                    (.of_skipBlanks (reads_of_accept colonTest)) rest)
              | false =>
                  rcases eq_skipBlanks_of_accept colonTest with rfl
                  rcases misfit_of_failExpecting rest with ⟨misfit, rfl⟩
                  simp only [Cursor.skipBlanks_skipBlanks] at misfit ⊢
                  refine .inl ⟨misfit,
                    .assign .nowhere names (.intLit .nowhere "1"),
                    ⟨isNames, namesNotReturn, isOne⟩, ?_⟩
                  rw [tokens_assign]
                  exact .behind namesPassed (.skipBlanks _ _)

/-- The word `return` begins a return statement where no parenthesis follows. -/
theorem beginsReturn_return (cursor : Cursor) :
    beginsReturn "return" cursor =
      .ok (!cursor.skipBlanks.atSymbol ['(']) cursor.skipBlanks := rfl

theorem beginsReturn_of_ne
    {word : String}
    (other : word ≠ "return") :
    beginsReturn word cursor = .ok false cursor := by
  rw [beginsReturn, if_neg other]
  rfl

/-- A statement fails in something good or as a call. -/
theorem stmt_fails
    (fails : stmt cursor = .error error after) :
    (Misfit error after ∧
      ∃ statement : Stmt, statement.WellFormed ∧
        ReadsPart cursor (statement.spelling.map Lexeme.token) after) ∨
    (error = ⟨.callStatement, cursor.skipBlanks.pos⟩ ∧
      CallAt cursor.skipBlanks after) := by
  rw [stmt, bind_eq_of_ok (here_eq cursor)] at fails
  rcases fails_of_bind_eq_error fails with
    firstFails | ⟨first, firstEnd, readFirst, rest⟩
  · rcases misfit_of_ident firstFails with ⟨misfit, rfl⟩
    rw [cursor.skipBlanks_skipBlanks] at misfit ⊢
    exact .inl ⟨misfit, .assign .nowhere ["x"] (.intLit .nowhere "1"),
      by decide, .skipBlanks cursor _⟩
  · rcases reads_of_ident readFirst with ⟨isName, firstPassed⟩
    by_cases isReturn : first = "return"
    · subst isReturn
      cases call : firstEnd.skipBlanks.atSymbol ['('] with
      | true =>
          have test : beginsReturn "return" firstEnd =
              .ok false firstEnd.skipBlanks := by
            rw [beginsReturn_return, call]
            rfl
          rw [bind_eq_of_ok test, if_neg Bool.false_ne_true,
            namesStmt_of_call] at rest
          · cases rest
            rw [Cursor.skipBlanks_skipBlanks]
            exact .inr ⟨rfl, ["return"], by decide,
              firstPassed.append (.skipBlanks firstEnd),
              (Cursor.atSymbol_char (by decide)).1 call⟩
          · simpa using call
      | false =>
          have test : beginsReturn "return" firstEnd =
              .ok true firstEnd.skipBlanks := by
            rw [beginsReturn_return, call]
            rfl
          rw [bind_eq_of_ok test, if_pos rfl] at rest
          rcases fails_of_bind_eq_error rest with
            valueFails | ⟨value, valueEnd, -, rest⟩
          · rcases expr_viable _ _ _ valueFails with
              ⟨misfit, value, isValue, part⟩
            exact .inl ⟨misfit, .ret .nowhere value, isValue,
              .of_skipBlanks (.behind firstPassed part.of_skipBlanks)⟩
          · cases rest
    · rw [bind_eq_of_ok (beginsReturn_of_ne isReturn),
        if_neg Bool.false_ne_true] at rest
      rcases
          stmt_of_namesStmt_fails cursor.atToken_skipBlanks isName isReturn
            firstPassed rest with
        ⟨misfit, statement, wellFormed, part⟩ | ⟨isCall, call⟩
      · exact .inl ⟨misfit, statement, wellFormed, part.of_skipBlanks⟩
      · exact .inr ⟨isCall, call⟩

/-! ## Functions -/

/-- A body fails in a statement or where its brace is missing. -/
theorem body_fails
    (fails : many bodyStep cursor = .error error after) :
    (Misfit error after ∧
      ∃ body : List Stmt, (∀ stmt ∈ body, stmt.WellFormed) ∧
        ReadsPart cursor
          ((body.flatMap Stmt.spelling).map Lexeme.token ++
            [.symbol "\x7d"])
          after) ∨
    ∃ (body : List Stmt) (middle : Cursor),
      (∀ stmt ∈ body, stmt.WellFormed) ∧ middle.AtToken ∧
        Reads cursor (body.flatMap Stmt.spelling) middle ∧
        error = ⟨.callStatement, middle.pos⟩ ∧ CallAt middle after := by
  rcases
      many_fails advancing_bodyStep (fun _ _ _ => reads_of_bodyStep) fails with
    ⟨body, middle, areStmts, passed, stepFails⟩
  rcases fails_of_bind_eq_error stepFails with
    closeFails | ⟨closed, closeEnd, test, rest⟩
  · exact (accept_ne_error _ closeFails).elim
  · cases closed with
    | true =>
        cases rest
    | false =>
        rcases eq_skipBlanks_of_accept test with rfl
        rw [if_neg Bool.false_ne_true, bind_eq_of_ok (atEnd_eq _),
          Cursor.skipBlanks_skipBlanks] at rest
        split at rest
        next =>
          rcases misfit_of_failExpecting rest with ⟨misfit, rfl⟩
          rw [Cursor.skipBlanks_skipBlanks] at misfit ⊢
          exact .inl ⟨misfit, body, areStmts,
            .behind passed (.skipBlanks middle _)⟩
        next =>
          rcases fails_of_bind_eq_error rest with
            stmtFails | ⟨next, nextEnd, -, rest⟩
          · rcases stmt_fails stmtFails with
              ⟨misfit, statement, wellFormed, part⟩ | ⟨isCall, call⟩
            · refine .inl ⟨misfit, body ++ [statement], ?_, ?_⟩
              · exact List.forall_mem_append.2
                  ⟨areStmts, List.forall_mem_singleton.2 wellFormed⟩
              · have whole := ReadsPart.behind passed part.of_skipBlanks
                rw [List.flatMap_append, List.map_append]
                simpa using whole.extend [.symbol "\x7d"]
            · rw [Cursor.skipBlanks_skipBlanks] at isCall call
              exact .inr ⟨body, middle.skipBlanks, areStmts,
                middle.atToken_skipBlanks,
                by simpa using passed.append (.skipBlanks middle),
                isCall, call⟩
          · cases rest

/-- The parameters fail in one of their groups. -/
theorem params_viable :
    Viable params (fun groups => ∀ decl ∈ groups, decl.IsGroup)
      (fun groups => commaBetween (groups.map Decl.spelling)) := by
  intro cursor error after fails
  rw [params, bind_eq_of_ok (atSymbol_eq _ _)] at fails
  split at fails
  next =>
    cases fails
  next =>
    rcases fails_of_bind_eq_error fails with
      firstFails | ⟨first, firstEnd, readFirst, othersFail⟩
    · rcases decl_viable _ _ _ firstFails with ⟨misfit, group, isGroup, part⟩
      refine ⟨misfit, [group], List.forall_mem_singleton.2 isGroup, ?_⟩
      simpa [commaBetween, commaBefore] using part.of_skipBlanks
    · rcases decl_readsAs _ _ _ readFirst with ⟨isGroup, firstPassed⟩
      rcases groups_of_decls_fails isGroup firstPassed othersFail with
        ⟨misfit, groups, areGroups, -, part⟩
      exact ⟨misfit, groups, areGroups, part.of_skipBlanks⟩

/-- The result types fail in one of them. -/
theorem rets_viable :
    Viable rets (fun types => ∀ type ∈ types, IsName type.name)
      spellRets := by
  intro cursor error after fails
  rcases fails_of_bind_eq_error fails with
    arrowFails | ⟨arrow, middle, test, rest⟩
  · exact (accept_ne_error _ arrowFails).elim
  · cases arrow with
    | false =>
        cases rest
    | true =>
        have arrowPassed := reads_of_accept test
        rcases fails_of_bind_eq_error rest with
          firstFails | ⟨first, firstEnd, readFirst, rest⟩
        · rcases typeRef_viable _ _ _ firstFails with
            ⟨misfit, type, isType, part⟩
          refine ⟨misfit, [type], List.forall_mem_singleton.2 isType, ?_⟩
          have whole := ReadsPart.behind arrowPassed part
          simpa [spellRets, commaBetween, commaBefore] using whole
        · rcases typeRef_readsAs _ _ _ readFirst with ⟨isType, firstPassed⟩
          rcases fails_of_bind_eq_error rest with
            othersFail | ⟨others, othersEnd, -, rest⟩
          · rcases
                afterCommas_viable forwardness.holds_typeRef typeRef_readsAs
                  typeRef_viable _ _ _ othersFail with
              ⟨misfit, others, areTypes, part⟩
            refine ⟨misfit, first :: others,
              List.forall_mem_cons.2 ⟨isType, areTypes⟩, ?_⟩
            have whole := ReadsPart.behind arrowPassed
              (.behind firstPassed part)
            simpa [spellRets, commaBetween] using whole
          · cases rest

/-- The tokens of a header, part by part. -/
theorem tokens_header
    (name : String)
    (groups : List Decl)
    (types : List TypeRef) :
    (headSpelling ⟨.nowhere, name, groups, types, []⟩).map Lexeme.token =
      [.word "fn"] ++ ([.word name] ++ ([.symbol "("] ++
        ((commaBetween (groups.map Decl.spelling)).map Lexeme.token ++
          ([.symbol ")"] ++ ((spellRets types).map Lexeme.token ++
            [.symbol "\x7b"]))))) := by
  simp [headSpelling]

/-- A header fails in one of its parts. -/
theorem header_viable : Viable header IsHeader headSpelling := by
  intro cursor error after fails
  rw [header, bind_eq_of_ok (here_eq cursor)] at fails
  -- What has been passed is kept as it is.  Of what is missing the optional
  -- parts are left out and the others are made as short as they can be.
  have noGroups := List.forall_mem_nil (Decl.IsGroup)
  have noTypes := List.forall_mem_nil fun type : TypeRef => IsName type.name
  have isShort : IsName "f" := by
    decide
  rcases fails_of_bind_eq_error fails with
    fnFails | ⟨⟨⟩, fnEnd, readFn, rest⟩
  · rcases misfit_of_require fnFails with ⟨misfit, rfl⟩
    rw [cursor.skipBlanks_skipBlanks] at misfit ⊢
    exact ⟨misfit, ⟨.nowhere, "f", [], [], []⟩, ⟨isShort, noGroups, noTypes⟩,
      .skipBlanks cursor _⟩
  have fnPassed :=
    (Reads.skipBlanks cursor).append
      (reads_of_accept_word rfl (accept_of_require readFn))
  rcases fails_of_bind_eq_error rest with
    nameFails | ⟨name, nameEnd, readName, rest⟩
  · rcases misfit_of_ident nameFails with ⟨misfit, rfl⟩
    refine ⟨misfit, ⟨.nowhere, "f", [], [], []⟩,
      ⟨isShort, noGroups, noTypes⟩, ?_⟩
    rw [tokens_header]
    exact .behind fnPassed (.skipBlanks _ _)
  rcases reads_of_ident readName with ⟨isName, namePassed⟩
  rcases fails_of_bind_eq_error rest with
    openFails | ⟨⟨⟩, openEnd, readOpen, rest⟩
  · rcases misfit_of_require openFails with ⟨misfit, rfl⟩
    refine ⟨misfit, ⟨.nowhere, name, [], [], []⟩,
      ⟨isName, noGroups, noTypes⟩, ?_⟩
    rw [tokens_header]
    exact .behind fnPassed (.behind namePassed (.skipBlanks _ _))
  have openPassed := reads_of_accept (accept_of_require readOpen)
  rcases fails_of_bind_eq_error rest with
    groupsFail | ⟨groups, groupsEnd, readGroups, rest⟩
  · rcases params_viable _ _ _ groupsFail with ⟨misfit, groups, areGroups, part⟩
    refine ⟨misfit, ⟨.nowhere, name, groups, [], []⟩,
      ⟨isName, areGroups, noTypes⟩, ?_⟩
    rw [tokens_header]
    exact .behind fnPassed (.behind namePassed
      (.behind openPassed (part.extend _)))
  rcases params_readsAs _ _ _ readGroups with ⟨areGroups, groupsPassed⟩
  rcases fails_of_bind_eq_error rest with
    closeFails | ⟨⟨⟩, closeEnd, readClose, rest⟩
  · rcases misfit_of_require closeFails with ⟨misfit, rfl⟩
    refine ⟨misfit, ⟨.nowhere, name, groups, [], []⟩,
      ⟨isName, areGroups, noTypes⟩, ?_⟩
    rw [tokens_header]
    exact .behind fnPassed (.behind namePassed
      (.behind openPassed (.behind groupsPassed (.skipBlanks _ _))))
  have closePassed := reads_of_accept (accept_of_require readClose)
  rcases fails_of_bind_eq_error rest with
    typesFail | ⟨types, typesEnd, readTypes, rest⟩
  · rcases rets_viable _ _ _ typesFail with ⟨misfit, types, areTypes, part⟩
    refine ⟨misfit, ⟨.nowhere, name, groups, types, []⟩,
      ⟨isName, areGroups, areTypes⟩, ?_⟩
    rw [tokens_header]
    exact .behind fnPassed (.behind namePassed (.behind openPassed
      (.behind groupsPassed (.behind closePassed (part.extend _)))))
  rcases rets_readsAs _ _ _ readTypes with ⟨areTypes, typesPassed⟩
  rcases fails_of_bind_eq_error rest with
    braceFails | ⟨⟨⟩, braceEnd, readBrace, rest⟩
  · rcases misfit_of_require braceFails with ⟨misfit, rfl⟩
    refine ⟨misfit, ⟨.nowhere, name, groups, types, []⟩,
      ⟨isName, areGroups, areTypes⟩, ?_⟩
    rw [tokens_header]
    exact .behind fnPassed (.behind namePassed (.behind openPassed
      (.behind groupsPassed (.behind closePassed
        (.behind typesPassed (.skipBlanks _ _))))))
  · cases rest

/-- The tokens of a function are those of its header and of its body. -/
theorem tokens_function (head : Function) (body : List Stmt) :
    Function.tokens { head with body } =
      (headSpelling head).map Lexeme.token ++
        ((body.flatMap Stmt.spelling).map Lexeme.token ++
          [.symbol "\x7d"]) := by
  rw [Function.tokens, spelling_eq_headSpelling, List.map_append,
    List.map_append]
  rfl

/-- A call in a body: the body could have been closed in front of it. -/
def CallIn (cursor : Cursor) (error : SyntaxError) (after : Cursor) : Prop :=
  ∃ (tree : Function) (lexemes : List Lexeme) (middle : Cursor),
    tree.WellFormed ∧
      Reads cursor lexemes middle ∧
      lexemes.map Lexeme.token ++ [.symbol "\x7d"] = tree.tokens ∧
      middle.AtToken ∧ error = ⟨.callStatement, middle.pos⟩ ∧
      CallAt middle after

/-- A function fails after the first tokens of one, or as a call. -/
theorem function_fails
    (fails : function cursor = .error error after) :
    (Misfit error after ∧
      ∃ tree : Function, tree.WellFormed ∧
        ReadsPart cursor tree.tokens after) ∨
    CallIn cursor error after := by
  have complete {head : Function}
      (isHeader : IsHeader head)
      {body : List Stmt}
      (areStmts : ∀ stmt ∈ body, stmt.WellFormed) :
      Function.WellFormed { head with body } :=
    ⟨isHeader.name, isHeader.params, isHeader.rets, areStmts⟩
  rw [function_eq] at fails
  rcases fails_of_bind_eq_error fails with
    headFails | ⟨head, headEnd, readHead, rest⟩
  · rcases header_viable _ _ _ headFails with ⟨misfit, head, isHeader, part⟩
    refine .inl ⟨misfit, { head with body := [] },
      complete isHeader (List.forall_mem_nil _), ?_⟩
    rw [tokens_function]
    exact part.extend _
  rcases header_readsAs _ _ _ readHead with ⟨isHeader, headPassed⟩
  rcases fails_of_bind_eq_error rest with
    bodyFails | ⟨body, bodyEnd, readBody, rest⟩
  · rcases body_fails bodyFails with
      ⟨misfit, body, areStmts, part⟩ |
        ⟨body, middle, areStmts, atToken, passed, isCall, call⟩
    · refine .inl ⟨misfit, { head with body }, complete isHeader areStmts, ?_⟩
      rw [tokens_function]
      exact .behind headPassed part
    · refine .inr ⟨{ head with body }, _, middle, complete isHeader areStmts,
        headPassed.append passed, ?_, atToken, isCall, call⟩
      rw [tokens_function, List.map_append, List.append_assoc]
  rcases reads_of_body readBody with ⟨areStmts, bodyPassed⟩
  rw [bind_eq_of_ok (atEnd_eq _)] at rest
  split at rest
  next =>
    cases rest
  next =>
    rcases misfit_of_failExpecting rest with ⟨misfit, rfl⟩
    rw [Cursor.skipBlanks_skipBlanks] at misfit ⊢
    refine .inl ⟨misfit, { head with body }, complete isHeader areStmts, ?_⟩
    rw [tokens_function]
    have whole := ReadsPart.behind (headPassed.append bodyPassed)
      (.skipBlanks bodyEnd [])
    simpa using whole

end Parser

end Sprig
