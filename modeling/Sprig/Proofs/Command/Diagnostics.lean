import Sprig.Proofs.Command.Phases
import Sprig.Proofs.Parser.Wording
import Sprig.Proofs.Typing.ChargeOffset

/-!
# Diagnostics

A run that fails on a source prints one line, and the line points into the
source.  What it points at depends on the error: the end of the source if a
token is missing there, the token that does not fit or the statement that is a
call, the name of a type, a variable, or a statement.  `Diagnostic.PointsAt`
lists the cases, each with the offset that the line and the column belong to.

The message quotes nothing but words and single characters of the source, none
of them blank, so it holds no line break.
-/

namespace Sprig

open Sprig.Text

/-! ## What errors point at -/

/-- What an error of the parser points at. -/
inductive SyntaxError.PointsAt (text : List Char) (offset : Nat) :
    SyntaxError → Prop where
  | endOfInput
      {what : String}
      (listed : what ∈ Parser.expectations)
      (ended : offset = text.length) :
      PointsAt text offset ⟨.expected what .endOfInput, posAt text offset⟩
  | unexpected
      {what quoted : String}
      (listed : what ∈ Parser.expectations)
      (solid : SolidAt text offset)
      (stands : StandsAt text offset (.text quoted)) :
      PointsAt text offset ⟨.expected what (.text quoted), posAt text offset⟩
  | call
      {paren : Nat}
      (solid : SolidAt text offset)
      (stands : CallStandsAt text offset paren) :
      PointsAt text offset ⟨.callStatement, posAt text offset⟩

/-- The faults that are charged to a whole statement. -/
inductive Stmt.Misses (statement : Stmt) : TypeFault → Prop where
  | arity (place : Pairing) (expected found : Nat) :
      Misses statement (.arity place expected found)
  | target {name : String} (assigned : name ∈ statement.targets) :
      Misses statement (.undeclared name)

/-- What an error of the checker points at. -/
inductive TypeError.PointsAt
    (source : String)
    (function : Function)
    (offset : Nat) : TypeError → Prop where
  | typeName
      {type : TypeRef}
      (annotated : type ∈ function.annotations)
      (unknown : Kind.ofName? type.name = none)
      (placed : type.pos = posAt source.toList offset)
      (stands : TokenAt source function offset (.word type.name)) :
      PointsAt source function offset
        ⟨.unknownType type.name, posAt source.toList offset⟩
  | varName
      {index : Nat} {statement : Stmt} {value : Expr} {name : String}
      (stops : Check.StopsAt function index statement
        ⟨.undeclared name, posAt source.toList offset⟩)
      (given : value ∈ statement.value?)
      (inside : .var (posAt source.toList offset) name ∈ value.components)
      (stands : TokenAt source function offset (.word name)) :
      PointsAt source function offset
        ⟨.undeclared name, posAt source.toList offset⟩
  | statement
      {index : Nat} {statement : Stmt} {fault : TypeFault} {token : Token}
      (stops : Check.StopsAt function index statement
        ⟨fault, posAt source.toList offset⟩)
      (misses : statement.Misses fault)
      (placed : statement.pos = posAt source.toList offset)
      (first : statement.spelling.head?.map Lexeme.token = some token)
      (stands : TokenAt source function offset token) :
      PointsAt source function offset ⟨fault, posAt source.toList offset⟩

/-- What a diagnostic points at in the source of a run. -/
inductive Diagnostic.PointsAt (source : String) (offset : Nat) :
    Diagnostic → Prop where
  | malformed
      {error : SyntaxError}
      (failed : parse source = .error error)
      (points : error.PointsAt source.toList offset) :
      PointsAt source offset (.malformed error)
  | illTyped
      {function : Function} {error : TypeError}
      (parsed : parse source = .ok function)
      (solid : SolidAt source.toList offset)
      (points : error.PointsAt source function offset) :
      PointsAt source offset (.illTyped error)

theorem Diagnostic.PointsAt.pos_eq
    {source : String}
    {offset : Nat}
    {diagnostic : Diagnostic}
    (points : diagnostic.PointsAt source offset) :
    diagnostic.pos = posAt source.toList offset := by
  cases points with
  | malformed _ points =>
      cases points <;> rfl
  | illTyped _ _ points =>
      cases points <;> rfl

/-! ## Every error points at something -/

theorem exists_pointsAt_of_parse
    {source : String}
    {error : SyntaxError}
    (failed : parse source = .error error) :
    ∃ offset, error.PointsAt source.toList offset := by
  rcases misfit_or_call failed with
    ⟨what, listed, found, offset, unexpected⟩ | ⟨offset, paren, called⟩
  · rcases error with ⟨fault, pos⟩
    cases unexpected.fault
    cases unexpected.pos
    refine ⟨offset, ?_⟩
    cases found with
    | endOfInput =>
        cases unexpected.stands with
        | endOfInput ended => exact .endOfInput listed ended
    | text quoted =>
        exact .unexpected listed unexpected.solidAt unexpected.stands
  · rcases error with ⟨fault, pos⟩
    cases called.fault
    cases called.pos
    exact ⟨offset, .call called.stands.solidAt called.stands⟩

variable {source : String}
variable {function : Function}

/-- Where an annotation is charged, its type stands. -/
theorem exists_pointsAt_typeName
    {type : TypeRef}
    (parsed : parse source = .ok function)
    (wellFormed : function.WellFormed)
    (annotated : type ∈ function.annotations)
    (unknown : Kind.ofName? type.name = none) :
    ∃ offset,
      TypeError.PointsAt source function offset
        ⟨.unknownType type.name, type.pos⟩ := by
  rcases exists_tokenAt parsed
      (Function.begins_annotation wellFormed annotated) with
    ⟨offset, stands, placed⟩
  refine ⟨offset, ?_⟩
  rw [placed]
  exact .typeName annotated unknown placed stands

/-- Where a statement is charged as a whole, its first token stands. -/
theorem exists_pointsAt_statement
    {index : Nat}
    {statement : Stmt}
    {fault : TypeFault}
    (parsed : parse source = .ok function)
    (wellFormed : function.WellFormed)
    (stops : Check.StopsAt function index statement ⟨fault, statement.pos⟩)
    (misses : statement.Misses fault) :
    ∃ offset,
      TypeError.PointsAt source function offset ⟨fault, statement.pos⟩ := by
  have member := List.mem_of_getElem? stops.1
  rcases Stmt.exists_beginsFirst (wellFormed.body statement member) with
    ⟨token, first, begins⟩
  rcases exists_tokenAt parsed (Function.begins_inBody member begins) with
    ⟨offset, stands, placed⟩
  refine ⟨offset, ?_⟩
  rw [placed] at stops ⊢
  exact .statement stops misses placed first stands

/-- Where a variable is charged, its name stands. -/
theorem exists_pointsAt_variable
    {index : Nat}
    {statement : Stmt}
    {value : Expr}
    {pos : Pos}
    {name : String}
    (parsed : parse source = .ok function)
    (stops : Check.StopsAt function index statement ⟨.undeclared name, pos⟩)
    (given : value ∈ statement.value?)
    (inside : .var pos name ∈ value.components) :
    ∃ offset,
      TypeError.PointsAt source function offset ⟨.undeclared name, pos⟩ := by
  have member := List.mem_of_getElem? stops.1
  have begins := Stmt.begins_value given (Expr.begins_variable inside)
  rcases exists_tokenAt parsed (Function.begins_inBody member begins) with
    ⟨offset, stands, placed⟩
  refine ⟨offset, ?_⟩
  rw [placed] at stops inside ⊢
  exact .varName stops given inside stands

/-- Of the errors that a check stops at, the other ones are none of a source. -/
theorem exists_pointsAt_of_stopsAt
    {index : Nat}
    {statement : Stmt}
    {error : TypeError}
    (parsed : parse source = .ok function)
    (wellFormed : function.WellFormed)
    (ofSource : error.fault.category ∈ sourceCategories)
    (stops : Check.StopsAt function index statement error) :
    ∃ offset, error.PointsAt source function offset := by
  have member := List.mem_of_getElem? stops.1
  have clash : "TypeMismatch" ∉ sourceCategories := by decide
  have unsupported : "UnsupportedConstruct" ∉ sourceCategories := by decide
  have noSlot : "NoSuchSlot" ∉ sourceCategories := by decide
  cases stops.charges with
  | arity place expected found =>
      exact exists_pointsAt_statement parsed wellFormed stops (.arity _ _ _)
  | target assigned =>
      exact exists_pointsAt_statement parsed wellFormed stops
        (.target assigned)
  | typeName annotated unknown =>
      refine exists_pointsAt_typeName parsed wellFormed ?_ unknown
      exact List.mem_append_right _
        (List.mem_flatMap.2 ⟨statement, member, annotated⟩)
  | component given inside charges =>
      cases charges with
      | undeclared pos name =>
          exact exists_pointsAt_variable parsed stops given inside
      | nested => exact absurd ofSource unsupported
      | bare => exact absurd ofSource unsupported
  | mismatch => exact absurd ofSource clash
  | bare => exact absurd ofSource unsupported
  | noSuchSlot => exact absurd ofSource noSlot

/-- A failed check has failed before it looks for names without a kind. -/
theorem exists_function_error
    {allowUnresolved : Bool}
    {error : TypeError}
    (wellFormed : function.WellFormed)
    (failed : function.check allowUnresolved = .error error) :
    ∃ after, Check.function function .initial = .error error after := by
  have allowed : Check.program function allowUnresolved .initial =
      Check.program function true .initial := by
    cases allowUnresolved with
    | true => rfl
    | false => exact (Check.program_eq_of_wellFormed wellFormed).symm
  rw [Function.check, allowed, Check.program] at failed
  cases outcome : Check.function function .initial with
  | ok value state =>
      rw [bind_eq_of_ok outcome] at failed
      cases failed
  | error found state =>
      rw [bind_eq_of_error outcome] at failed
      cases failed
      exact ⟨state, rfl⟩

theorem exists_pointsAt_of_check
    {allowUnresolved : Bool}
    {error : TypeError}
    (parsed : parse source = .ok function)
    (wellFormed : function.WellFormed)
    (failed : function.check allowUnresolved = .error error) :
    ∃ offset, error.PointsAt source function offset := by
  rcases exists_function_error wellFormed failed with ⟨after, fails⟩
  have ofSource : error.fault.category ∈ sourceCategories := by
    have inferred := Check.infers_function CheckState.known_initial wellFormed
    rw [fails] at inferred
    cases inferred with
    | error _ _ allowed => exact allowed
  rcases Check.error_of_function fails with ⟨annotated, unknown⟩ | stops
  · exact exists_pointsAt_typeName parsed wellFormed
      (List.mem_append_left _ annotated) unknown
  · rcases stops with ⟨index, statement, stops⟩
    exact exists_pointsAt_of_stopsAt parsed wellFormed ofSource stops

/-! ## Messages are single lines -/

/-- The name of a token of a function holds no blank. -/
theorem TokenAt.oneLine
    {offset : Nat}
    {name : String}
    (stands : TokenAt source function offset (.word name))
    (wellFormed : function.WellFormed) :
    OneLine name := by
  rcases stands with ⟨layout, -, -, placed⟩
  exact oneLine_of_solid
    (wellFormed.solid _ (List.of_mem_zip placed).2).2.1

theorem oneLine_expectation :
    ∀ what ∈ Parser.expectations, OneLine what := by
  decide

theorem SyntaxError.PointsAt.oneLine
    {text : List Char}
    {offset : Nat}
    {error : SyntaxError}
    (points : error.PointsAt text offset) :
    OneLine error.fault.message := by
  have expected : OneLine "expected " := by decide
  have got : OneLine ", got " := by decide
  cases points with
  | endOfInput listed ended =>
      have ended : OneLine Lookahead.endOfInput.describe := by decide
      exact ((expected.append (oneLine_expectation _ listed)).append got).append
        ended
  | unexpected listed solid stands =>
      refine ((expected.append (oneLine_expectation _ listed)).append
        got).append (stands.oneLine ?_)
      rcases solid with ⟨char, here, notBlank⟩
      rw [List.head?_drop, here]
      exact notBlank
  | call solid stands =>
      show OneLine "call statements are not supported"
      decide

theorem TypeError.PointsAt.oneLine
    {offset : Nat}
    {error : TypeError}
    (points : error.PointsAt source function offset)
    (wellFormed : function.WellFormed) :
    OneLine error.fault.message := by
  have quote : OneLine "'" := by decide
  have undeclared : OneLine "undeclared identifier '" := by decide
  cases points with
  | typeName _ _ _ stands =>
      have unknown : OneLine "unknown type '" := by decide
      exact (unknown.append (stands.oneLine wellFormed)).append quote
  | varName _ _ _ stands =>
      exact (undeclared.append (stands.oneLine wellFormed)).append quote
  | statement stops misses _ _ _ =>
      cases misses with
      | arity place expected found =>
          have named : OneLine place.name := by
            cases place <;> decide
          have clash : OneLine " arity mismatch: expected " := by decide
          have values : OneLine " value(s), found " := by decide
          exact (((named.append clash).append (oneLine_nat expected)).append
            values).append (oneLine_nat found)
      | target assigned =>
          have member := List.mem_of_getElem? stops.1
          have isName := (wellFormed.body _ member).isName_of_target assigned
          exact (undeclared.append (oneLine_of_solid isName.solid.2.1)).append
            quote

/-- A token stands where an error of the checker points. -/
theorem TypeError.PointsAt.solidAt
    {offset : Nat}
    {error : TypeError}
    (points : error.PointsAt source function offset)
    (wellFormed : function.WellFormed) :
    SolidAt source.toList offset := by
  cases points with
  | typeName _ _ _ stands => exact stands.solidAt wellFormed
  | varName _ _ _ stands => exact stands.solidAt wellFormed
  | statement _ _ _ _ stands => exact stands.solidAt wellFormed

theorem Diagnostic.PointsAt.oneLine
    {offset : Nat}
    {diagnostic : Diagnostic}
    (points : diagnostic.PointsAt source offset) :
    OneLine diagnostic.message := by
  cases points with
  | malformed _ points =>
      exact points.oneLine
  | illTyped parsed _ points =>
      exact points.oneLine (exists_layout_of_parse parsed).1

/-- The class of a diagnostic is a word. -/
theorem Diagnostic.oneLine_category (diagnostic : Diagnostic) :
    OneLine diagnostic.category := by
  cases diagnostic with
  | malformed error =>
      rcases error with ⟨fault, pos⟩
      cases fault <;> simp only [category, SyntaxFault.category] <;> decide
  | illTyped error =>
      rcases error with ⟨fault, pos⟩
      cases fault <;> simp only [category, TypeFault.category] <;> decide

theorem Diagnostic.PointsAt.oneLine_line
    {offset : Nat}
    {diagnostic : Diagnostic}
    (points : diagnostic.PointsAt source offset) :
    OneLine diagnostic.line := by
  have error : OneLine "error:" := by decide
  have colon : OneLine ":" := by decide
  have space : OneLine ": " := by decide
  have place := ((error.append (oneLine_int diagnostic.pos.line)).append
    colon).append (oneLine_int diagnostic.pos.col)
  exact (((place.append space).append diagnostic.oneLine_category).append
    space).append points.oneLine

/-! ## Runs -/

/-- The diagnostic that a source is refused with points into the source. -/
theorem exists_pointsAt_of_process
    {options : Command.Options}
    {diagnostic : Diagnostic}
    (failed : Command.process options source = .error diagnostic) :
    ∃ offset, diagnostic.PointsAt source offset := by
  cases Command.process_eq_error_iff.1 failed with
  | malformed malformed =>
      rcases exists_pointsAt_of_parse malformed with ⟨offset, points⟩
      exact ⟨offset, .malformed malformed points⟩
  | illTyped asked parsed illTyped =>
      have wellFormed := (exists_layout_of_parse parsed).1
      rcases exists_pointsAt_of_check parsed wellFormed illTyped with
        ⟨offset, points⟩
      exact ⟨offset, .illTyped parsed (points.solidAt wellFormed) points⟩

namespace Command

/-- The bytes of a source are decoded to the source. -/
theorem outcome_toUTF8 (options : Options) (source : String) :
    outcome options source.toUTF8 =
      match process options source with
      | .error diagnostic => .error (.failure 1 diagnostic.line)
      | .ok json => .ok (json.render ++ "\n") := by
  have decoded : String.fromUTF8? source.toUTF8 = some source :=
    dif_pos source.isValidUTF8
  cases processed : process options source with
  | error diagnostic =>
      simp only [outcome, decoded, processed]
  | ok json =>
      simp only [outcome, decoded, processed]

/--
If a run fails on a source, it prints one line, which holds the line and the
column of an offset of the source at which the diagnostic points, the class
of the error and its message.
-/
theorem failure_points_into_source
    {options : Options}
    {source : String}
    {report : Report}
    (failed : outcome options source.toUTF8 = .error report) :
    ∃ (diagnostic : Diagnostic) (offset : Nat),
      process options source = .error diagnostic ∧
        report.exitCode = 1 ∧
        report.stdout = "" ∧
        report.stderr =
          "error:" ++ toString diagnostic.pos.line ++ ":" ++
            toString diagnostic.pos.col ++ ": " ++ diagnostic.category ++
            ": " ++ diagnostic.message ++ "\n" ∧
        OneLine diagnostic.line ∧
        OneLine diagnostic.message ∧
        diagnostic.pos = posAt source.toList offset ∧
        diagnostic.PointsAt source offset := by
  rw [outcome_toUTF8] at failed
  cases processed : process options source with
  | ok json =>
      rw [processed] at failed
      cases failed
  | error diagnostic =>
      rw [processed] at failed
      cases failed
      rcases exists_pointsAt_of_process processed with ⟨offset, points⟩
      exact ⟨diagnostic, offset, rfl, rfl, rfl, rfl, points.oneLine_line,
        points.oneLine, points.pos_eq, points⟩

/-- On the third line a name is assigned that has not been declared. -/
theorem failure_points_into_source_assignment :
    outcome ⟨.check, false, none, none⟩
        "fn f(a: int)\x7b\n  b := a\n  c = b\x7d".toUTF8 =
      .error
        ⟨1, "", "error:3:3: UndeclaredIdentifier: undeclared identifier 'c'\n"⟩ ∧
    ∃ (diagnostic : Diagnostic) (offset : Nat),
      process ⟨.check, false, none, none⟩
          "fn f(a: int)\x7b\n  b := a\n  c = b\x7d" =
        .error diagnostic ∧
      "error:3:3: UndeclaredIdentifier: undeclared identifier 'c'\n" =
        "error:" ++ toString diagnostic.pos.line ++ ":" ++
          toString diagnostic.pos.col ++ ": " ++ diagnostic.category ++
          ": " ++ diagnostic.message ++ "\n" ∧
      OneLine diagnostic.line ∧
      OneLine diagnostic.message ∧
      diagnostic.pos =
        posAt "fn f(a: int)\x7b\n  b := a\n  c = b\x7d".toList offset ∧
      diagnostic.PointsAt "fn f(a: int)\x7b\n  b := a\n  c = b\x7d" offset := by
  have parsed : parse "fn f(a: int)\x7b\n  b := a\n  c = b\x7d" =
      .ok
        ⟨⟨1, 1⟩, "f", [⟨⟨1, 6⟩, ["a"], some ⟨⟨1, 9⟩, "int"⟩⟩], [],
          [ .decl ⟨2, 3⟩ [⟨⟨2, 3⟩, ["b"], none⟩] (some (.var ⟨2, 8⟩ "a")),
            .assign ⟨3, 3⟩ ["c"] (.var ⟨3, 7⟩ "b") ]⟩ := by
    decide +kernel
  have processed : process ⟨.check, false, none, none⟩
      "fn f(a: int)\x7b\n  b := a\n  c = b\x7d" =
        .error (.illTyped ⟨.undeclared "c", ⟨3, 3⟩⟩) := by
    rw [process, check, parsed]
    rfl
  have failed : outcome ⟨.check, false, none, none⟩
      "fn f(a: int)\x7b\n  b := a\n  c = b\x7d".toUTF8 =
        .error
          ⟨1, "",
            "error:3:3: UndeclaredIdentifier: undeclared identifier 'c'\n"⟩ := by
    rw [outcome_toUTF8, processed]
    rfl
  rcases failure_points_into_source failed with
    ⟨diagnostic, offset, isError, -, -, printed, line, message, place, points⟩
  exact ⟨failed, diagnostic, offset, isError, printed, line, message, place,
    points⟩

end Command

end Sprig
