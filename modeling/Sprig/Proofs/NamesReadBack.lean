import Sprig.Program
import Sprig.Proofs.Parser.Completeness
import Sprig.Proofs.Typing.Rejection

/-!
# Names that are read back

A name is declarable when the reader of names takes the whole of it.  Where a
value is expected, numbers are tried before names, and some letters are
numeric too.  A declarable name that begins with such a letter is therefore
read as the number that it begins with.  Every other declarable name is read
as a variable of that name, wherever it stands, so that what has been declared
can be returned, and what has not is reported as undeclared.

`ReadsBack` collects what holds of such names and `ReadsAsNumber` what holds
of the others.  Two sources serve as examples for any name: one declares and
returns it, and one reads it in an initializer although nothing is declared.
-/

namespace Sprig

open Sprig.Text

/-! ## Names in front of a cursor -/

/-- The reader of names takes the whole of a text as a name. -/
def Declarable (name : String) : Prop :=
  ∃ after, Parser.ident? (.start name) = .ok (some name) after ∧
    after.rest = []

/-- A name stands at a cursor, and what follows it does not continue it. -/
structure Cursor.AtName
    (cursor : Cursor) (name : String) (rest : List Char) : Prop where
  ahead : cursor.rest = name.toList ++ rest
  ends : rest.head?.any isAlphanumeric = false

/-- The cursor behind a text, with what is left. -/
def Cursor.behind (cursor : Cursor) (text rest : List Char) : Cursor :=
  ⟨cursor.location.advanceAll text, rest⟩

namespace Cursor.AtName

variable {cursor : Cursor}
variable {rest : List Char}
variable {name : String}

theorem head?_eq
    (atName : cursor.AtName name rest)
    (isName : IsName name) :
    cursor.rest.head? = name.toList.head? := by
  rw [atName.ahead]
  exact (isName.solid.head?_eq rest).1

theorem skipBlanks_eq
    (atName : cursor.AtName name rest)
    (isName : IsName name) :
    cursor.skipBlanks = cursor := by
  apply skipBlanks_of_atToken
  rw [AtToken, atName.ahead]
  exact (isName.solid.head?_eq rest).2

/-- The name is read whole. -/
theorem ident?_eq
    (atName : cursor.AtName name rest)
    (isName : IsName name) :
    Parser.ident? cursor = .ok (some name) (cursor.behind name.toList rest) := by
  have begins : cursor.next?.any isLetter = true := by
    rw [next?, atName.head?_eq isName]
    exact isName.1
  rcases takeWhile_append_of_stops (List.all_eq_true.1 isName.2) atName.ends
    with ⟨taken, left⟩
  rw [Parser.ident?_eq, atName.skipBlanks_eq isName, if_pos begins, dropWhile,
    atName.ahead, taken, left, String.ofList_toList, behind]

/-- The name does not begin with a number. -/
theorem numeral?_eq_none
    (atName : cursor.AtName name rest)
    (isName : IsName name)
    (notNumeric : name.toList.head?.any isNumeric = false) :
    Parser.numeral? cursor = .ok none cursor := by
  have noDigit : cursor.rest.head?.any isNumeric = false := by
    rw [atName.head?_eq isName]
    exact notNumeric
  have empty : ([] ++ cursor.rest).takeWhile isNumeric = [] :=
    (takeWhile_append_of_stops (List.forall_mem_nil _) noDigit).1
  rw [List.nil_append] at empty
  rw [Parser.numeral?_eq, atName.skipBlanks_eq isName,
    (dropWhile_eq_self empty).1, empty]
  rfl

/-- The numeric characters that the name begins with are read as a number. -/
theorem numeral?_eq_some
    (atName : cursor.AtName name rest)
    (isName : IsName name)
    (numeric : name.toList.head?.any isNumeric = true) :
    Parser.numeral? cursor =
      .ok (some (String.ofList (name.toList.takeWhile isNumeric)))
        (cursor.behind (name.toList.takeWhile isNumeric)
          (name.toList.dropWhile isNumeric ++ rest)) := by
  have restStops : rest.head?.any isNumeric = false :=
    Token.stops_of_head? atName.ends (.number name)
  have stops :
      (name.toList.dropWhile isNumeric ++ rest).head?.any isNumeric = false := by
    have nameStops := head?_dropWhile isNumeric name.toList
    cases left : name.toList.dropWhile isNumeric with
    | nil =>
        exact restStops
    | cons char others =>
        rw [left] at nameStops
        exact nameStops
  have split : cursor.rest =
      name.toList.takeWhile isNumeric ++
        (name.toList.dropWhile isNumeric ++ rest) := by
    rw [atName.ahead, ← List.append_assoc, List.takeWhile_append_dropWhile]
  have digits : ∀ char ∈ name.toList.takeWhile isNumeric,
      isNumeric char = true :=
    List.all_eq_true.1 List.all_takeWhile
  have nonempty : (name.toList.takeWhile isNumeric).isEmpty = false := by
    rw [Option.any_eq_true] at numeric
    rcases numeric with ⟨char, first, isNumeric⟩
    rcases List.head?_eq_some_iff.1 first with ⟨others, text⟩
    rw [text, List.takeWhile_cons_of_pos isNumeric]
    rfl
  rcases takeWhile_append_of_stops digits stops with ⟨taken, left⟩
  rw [Parser.numeral?_eq, atName.skipBlanks_eq isName, dropWhile, split, taken,
    left, nonempty]
  rfl

end Cursor.AtName

theorem declarable_iff {name : String} : Declarable name ↔ IsName name := by
  constructor
  · rintro ⟨after, read, -⟩
    exact (Parser.reads_of_ident? read).1
  · intro isName
    have atName : (Cursor.start name).AtName name [] :=
      ⟨(List.append_nil _).symm, rfl⟩
    exact ⟨_, atName.ident?_eq isName, rfl⟩

/-! ## Values -/

namespace Cursor.AtName

variable {cursor : Cursor}
variable {rest : List Char}
variable {name : String}

theorem atom_eq_var
    (atName : cursor.AtName name rest)
    (isName : IsName name)
    (notNumeric : name.toList.head?.any isNumeric = false) :
    Parser.atom cursor =
      .ok (.var cursor.pos name) (cursor.behind name.toList rest) := by
  have here := Parser.here_eq cursor
  rw [atName.skipBlanks_eq isName] at here
  rw [Parser.atom, bind_eq_of_ok here,
    bind_eq_of_ok (atName.numeral?_eq_none isName notNumeric)]
  exact bind_eq_of_ok (atName.ident?_eq isName) _

theorem atom_eq_intLit
    (atName : cursor.AtName name rest)
    (isName : IsName name)
    (numeric : name.toList.head?.any isNumeric = true) :
    Parser.atom cursor =
      .ok
        (.intLit cursor.pos
          (String.ofList (name.toList.takeWhile isNumeric)))
        (cursor.behind (name.toList.takeWhile isNumeric)
          (name.toList.dropWhile isNumeric ++ rest)) := by
  have here := Parser.here_eq cursor
  rw [atName.skipBlanks_eq isName] at here
  rw [Parser.atom, bind_eq_of_ok here]
  exact bind_eq_of_ok (atName.numeral?_eq_some isName numeric) _

end Cursor.AtName

/-! ## Undeclared names in initializers -/

namespace Check

variable {state : CheckState}

/-- A component that has a slot is typed, and nothing is declared. -/
theorem slotOf_of_hasSlot
    {component : Expr}
    (bears : component.hasSlot state.scope = true) :
    ∃ slot later,
      slotOf component state = .ok slot later ∧
        later.scope = state.scope := by
  cases component with
  | intLit pos text =>
      exact ⟨_, _, rfl, rfl⟩
  | var pos name =>
      have found := lookup_eq name pos state
      rw [Expr.hasSlot, Scope.contains, Option.isSome_iff_exists] at bears
      rcases bears with ⟨declared, bound⟩
      rw [bound] at found
      exact ⟨_, _, found, rfl⟩
  | tuple pos elements =>
      cases bears
  | bare pos =>
      cases bears

/-- Typing stops at an undeclared name that only typed components precede. -/
theorem mapM_slotOf_undeclared
    {front : List Expr}
    {name : String}
    (typed : ∀ component ∈ front, component.hasSlot state.scope = true)
    (unbound : state.scope.get? name = none)
    (pos : Pos)
    (back : List Expr) :
    ∃ after,
      (front ++ .var pos name :: back).mapM slotOf state =
        .error ⟨.undeclared name, pos⟩ after := by
  induction front generalizing state with
  | nil =>
      have found := lookup_eq name pos state
      rw [unbound] at found
      rw [List.nil_append, List.mapM_cons]
      exact ⟨state, bind_eq_of_error found _⟩
  | cons component front ih =>
      rw [List.forall_mem_cons] at typed
      rcases slotOf_of_hasSlot typed.1 with ⟨slot, later, read, same⟩
      rw [← same] at typed unbound
      rcases ih typed.2 unbound with ⟨after, fails⟩
      rw [List.cons_append, List.mapM_cons, bind_eq_of_ok read]
      exact ⟨after, bind_eq_of_error fails _⟩

end Check

/--
The first component without a slot in an initializer is a name, and it is not
declared where the check reaches the initializer.
-/
inductive Function.ReadsUndeclared
    (code : Function) (name : String) (pos : Pos) : Prop where
  | initializer
      {index : Nat} {site : Pos} {decls : List Decl} {value : Expr}
      {front back : List Expr} {state : CheckState}
      (listed : code.body[index]? = some (.decl site decls (some value)))
      (reached : Check.function (code.upTo index) .initial = .ok () state)
      (components : value.components = front ++ .var pos name :: back)
      (typed : ∀ component ∈ front, component.hasSlot state.scope = true)
      (unbound : state.scope.get? name = none) :
      ReadsUndeclared code name pos

/-- The name is reported, whether unresolved names are allowed or not. -/
theorem Function.ReadsUndeclared.check_eq
    {code : Function}
    {name : String}
    {pos : Pos}
    (reads : code.ReadsUndeclared name pos)
    (allowUnresolved : Bool) :
    code.check allowUnresolved = .error ⟨.undeclared name, pos⟩ := by
  cases reads with
  | @initializer index site decls value front back state listed reached
      components typed unbound =>
      rcases Check.mapM_slotOf_undeclared typed unbound pos back with
        ⟨after, valuesFail⟩
      rw [← components] at valuesFail
      have initializersFail :
          Check.initializers site decls (some value) state =
            .error ⟨.undeclared name, pos⟩ after :=
        bind_eq_of_error valuesFail _
      have stmtFails :
          Check.stmt (.decl site decls (some value)) state =
            .error ⟨.undeclared name, pos⟩ after :=
        bind_eq_of_error initializersFail _
      rcases List.getElem?_eq_some_iff.1 listed with ⟨inside, atIndex⟩
      have functionFails :
          Check.function code .initial =
            .error ⟨.undeclared name, pos⟩ after := by
        rw [Check.function_eq_upTo_bind code index, bind_eq_of_ok reached,
          List.drop_eq_getElem_cons inside, atIndex]
        exact bind_eq_of_error stmtFails _
      have programFails :
          Check.program code allowUnresolved .initial =
            .error ⟨.undeclared name, pos⟩ after :=
        bind_eq_of_error functionFails _
      rw [check, programFails]

theorem Function.ReadsUndeclared.check_source_eq
    {source : String}
    {code : Function}
    {name : String}
    {pos : Pos}
    (reads : code.ReadsUndeclared name pos)
    (parsed : parse source = .ok code)
    (allowUnresolved : Bool) :
    Sprig.check source allowUnresolved =
      .error (.illTyped ⟨.undeclared name, pos⟩) := by
  rw [Sprig.check, parsed]
  simp only [reads.check_eq allowUnresolved]

/-! ## Two sources for any name -/

/-- A function that declares a name as its parameter and returns it. -/
def returningSource (name : String) : String :=
  "fn f(" ++ name ++ ": int) -> int \x7b return " ++ name ++ " \x7d"

/-- A function that reads a name in an initializer and declares it nowhere. -/
def initializingSource (name : String) : String :=
  "fn f() \x7b x := " ++ name ++ " \x7d"

theorem blank_nil : ∀ char ∈ ([] : List Char), isBlank char :=
  List.forall_mem_nil _

theorem blank_space : ∀ char ∈ [' '], isBlank char :=
  List.forall_mem_singleton.2 rfl

/-- A token directly behind what precedes it. -/
def Piece.tight (token : Token) : Piece :=
  ⟨[], token, blank_nil⟩

/-- A token behind one space. -/
def Piece.spaced (token : Token) : Piece :=
  ⟨[' '], token, blank_space⟩

/-- The tokens of `returningSource`. -/
def returningLayout (name : String) : Layout where
  pieces :=
    [ .tight (.word "fn"), .spaced (.word "f"), .tight (.symbol "("),
      .tight (.word name), .tight (.symbol ":"), .spaced (.word "int"),
      .tight (.symbol ")"), .spaced (.symbol "->"), .spaced (.word "int"),
      .spaced (.symbol "\x7b"), .spaced (.word "return"),
      .spaced (.word name), .spaced (.symbol "\x7d") ]
  trailing := []
  blank := blank_nil

/-- The tokens of `initializingSource`. -/
def initializingLayout (name : String) : Layout where
  pieces :=
    [ .tight (.word "fn"), .spaced (.word "f"), .tight (.symbol "("),
      .tight (.symbol ")"), .spaced (.symbol "\x7b"), .spaced (.word "x"),
      .spaced (.symbol ":"), .tight (.symbol "="), .spaced (.word name),
      .spaced (.symbol "\x7d") ]
  trailing := []
  blank := blank_nil

theorem text_returningLayout (name : String) :
    String.ofList (returningLayout name).text = returningSource name := by
  apply String.toList_inj.1
  rw [String.toList_ofList]
  simp [returningLayout, returningSource, Layout.text, Piece.text, Piece.tight,
    Piece.spaced, Token.word, Token.symbol]

theorem text_initializingLayout (name : String) :
    String.ofList (initializingLayout name).text = initializingSource name := by
  apply String.toList_inj.1
  rw [String.toList_ofList]
  simp [initializingLayout, initializingSource, Layout.text, Piece.text,
    Piece.tight, Piece.spaced, Token.word, Token.symbol]

/-- The tree of `returningSource`, without positions. -/
def returningTree (name : String) : Function :=
  ⟨.nowhere, "f", [⟨.nowhere, [name], some ⟨.nowhere, "int"⟩⟩],
    [⟨.nowhere, "int"⟩], [.ret .nowhere (.var .nowhere name)]⟩

/-- The tree of `initializingSource`, without positions. -/
def initializingTree (name : String) : Function :=
  ⟨.nowhere, "f", [], [],
    [.decl .nowhere [⟨.nowhere, ["x"], none⟩] (some (.var .nowhere name))]⟩

theorem wellFormed_returningTree
    {name : String}
    (isName : IsName name)
    (notNumeric : name.toList.head?.any isNumeric = false) :
    (returningTree name).WellFormed := by
  have isInt : IsName "int" := by decide
  constructor
  · exact (by decide : IsName "f")
  · refine List.forall_mem_singleton.2 ⟨⟨List.cons_ne_nil _ _, ?_⟩, ?_⟩
    · exact List.forall_mem_singleton.2 isName
    · exact ⟨_, rfl, isInt⟩
  · exact List.forall_mem_singleton.2 isInt
  · exact List.forall_mem_singleton.2 ⟨isName, notNumeric⟩

theorem wellFormed_initializingTree
    {name : String}
    (isName : IsName name)
    (notNumeric : name.toList.head?.any isNumeric = false) :
    (initializingTree name).WellFormed := by
  have inferred : Decl.IsInferred ⟨.nowhere, ["x"], none⟩ := by decide
  constructor
  · exact (by decide : IsName "f")
  · exact List.forall_mem_nil _
  · exact List.forall_mem_nil _
  · refine List.forall_mem_singleton.2 ⟨List.cons_ne_nil _ _, ?_, .inr ?_⟩
    · exact fun same => absurd (Option.some.inj same) (by decide)
    · exact ⟨List.forall_mem_singleton.2 inferred, _, rfl, isName, notNumeric⟩

/-- A layout of the tokens of a function parses to it, up to positions. -/
theorem exists_parse_of_layout
    {tree : Function}
    (wellFormed : tree.WellFormed)
    {layout : Layout}
    (tokens : layout.tokens = tree.tokens)
    (separated : layout.Separated) :
    ∃ parsed,
      parse (String.ofList layout.text) = .ok parsed ∧
        parsed.unplaced = tree.unplaced := by
  have spelled := layout.spelled (tokens ▸ wellFormed.solid) separated
  rw [tokens, ← List.append_nil tree.tokens,
    ← String.toList_ofList (l := layout.text)] at spelled
  rcases Parser.function_finds wellFormed
      (Cursor.start (String.ofList layout.text)) spelled with
    ⟨parsed, after, read, same, -⟩
  refine ⟨parsed, ?_, same⟩
  rw [parse, read]

theorem Expr.exists_of_unplaced_var
    {value : Expr}
    {name : String}
    (same : value.unplaced = .var .nowhere name) :
    ∃ pos, value = .var pos name := by
  cases value with
  | var pos other =>
      cases same
      exact ⟨pos, rfl⟩
  | _ =>
      cases same

theorem Stmt.exists_of_unplaced_ret
    {statement : Stmt}
    {name : String}
    (same : statement.unplaced = .ret .nowhere (.var .nowhere name)) :
    ∃ site pos, statement = .ret site (.var pos name) := by
  cases statement with
  | ret site value =>
      injection same with _ sameValue
      rcases Expr.exists_of_unplaced_var sameValue with ⟨pos, rfl⟩
      exact ⟨site, pos, rfl⟩
  | _ =>
      cases same

theorem Stmt.exists_of_unplaced_decl
    {statement : Stmt}
    {decls : List Decl}
    {name : String}
    (same : statement.unplaced =
      .decl .nowhere decls (some (.var .nowhere name))) :
    ∃ site placed pos, statement = .decl site placed (some (.var pos name)) := by
  cases statement with
  | decl site placed value =>
      injection same with _ _ sameValue
      rcases Option.map_eq_some_iff.1 sameValue with ⟨initial, rfl, sameInitial⟩
      rcases Expr.exists_of_unplaced_var sameInitial with ⟨pos, rfl⟩
      exact ⟨site, placed, pos, rfl⟩
  | _ =>
      cases same

/-! ## Reading names back -/

/-- What a name is read as when no number comes first. -/
structure ReadsBack (name : String) : Prop where
  atom : ∀ (cursor : Cursor) (rest : List Char), cursor.AtName name rest →
    Parser.atom cursor =
      .ok (.var cursor.pos name) (cursor.behind name.toList rest)
  returned : ∃ tree site pos,
    parse (returningSource name) = .ok tree ∧
      tree.body = [.ret site (.var pos name)]
  undeclared : ∃ pos, ∀ allowUnresolved,
    check (initializingSource name) allowUnresolved =
      .error (.illTyped ⟨.undeclared name, pos⟩)

/-- What a name is read as that begins with a number. -/
structure ReadsAsNumber (name : String) : Prop where
  atom : ∀ (cursor : Cursor) (rest : List Char), cursor.AtName name rest →
    Parser.atom cursor =
      .ok
        (.intLit cursor.pos
          (String.ofList (name.toList.takeWhile isNumeric)))
        (cursor.behind (name.toList.takeWhile isNumeric)
          (name.toList.dropWhile isNumeric ++ rest))

section

variable {name : String}

theorem exists_parse_returningSource
    (isName : IsName name)
    (notNumeric : name.toList.head?.any isNumeric = false) :
    ∃ tree site pos,
      parse (returningSource name) = .ok tree ∧
        tree.body = [.ret site (.var pos name)] := by
  have wellFormed := wellFormed_returningTree isName notNumeric
  have separated : (returningLayout name).Separated := by
    simp [Layout.Separated, returningLayout, Piece.tight, Piece.spaced,
      Token.word, Token.symbol]
  rcases exists_parse_of_layout wellFormed rfl separated with
    ⟨parsed, succeeds, same⟩
  rw [text_returningLayout] at succeeds
  rcases List.map_eq_singleton_iff.1 (congrArg Function.body same) with
    ⟨statement, body, sameStatement⟩
  rcases Stmt.exists_of_unplaced_ret sameStatement with ⟨site, pos, rfl⟩
  exact ⟨parsed, site, pos, succeeds, body⟩

theorem exists_parse_initializingSource
    (isName : IsName name)
    (notNumeric : name.toList.head?.any isNumeric = false) :
    ∃ tree pos,
      parse (initializingSource name) = .ok tree ∧
        tree.ReadsUndeclared name pos := by
  have wellFormed := wellFormed_initializingTree isName notNumeric
  have separated : (initializingLayout name).Separated := by
    simp [Layout.Separated, initializingLayout, Piece.tight, Piece.spaced,
      Token.word, Token.symbol]
  rcases exists_parse_of_layout wellFormed rfl separated with
    ⟨parsed, succeeds, same⟩
  rw [text_initializingLayout] at succeeds
  rcases List.map_eq_singleton_iff.1 (congrArg Function.body same) with
    ⟨statement, body, sameStatement⟩
  rcases Stmt.exists_of_unplaced_decl sameStatement with
    ⟨site, decls, pos, rfl⟩
  have noParams := List.map_eq_nil_iff.1 (congrArg Function.params same)
  have noRets := List.map_eq_nil_iff.1 (congrArg Function.rets same)
  have reached :
      Check.function (parsed.upTo 0) .initial = .ok () .initial := by
    rw [Check.function, Function.upTo, noParams, noRets]
    rfl
  have listed :
      parsed.body[0]? = some (.decl site decls (some (.var pos name))) := by
    rw [body]
    rfl
  have components :
      (Expr.var pos name).components = [] ++ .var pos name :: [] := rfl
  exact ⟨parsed, pos, succeeds,
    .initializer listed reached components (List.forall_mem_nil _) rfl⟩

/--
A declarable name is read back as a variable, unless it begins with a numeric
letter: then it is read as the number that it begins with.  Whatever source
reads an undeclared name in an initializer is refused for it.
-/
theorem declarable_names_read_back
    (declarable : Declarable name) :
    (name.toList.head?.any isNumeric = false → ReadsBack name) ∧
    (name.toList.head?.any isNumeric = true → ReadsAsNumber name) ∧
    ∀ source tree pos allowUnresolved,
      parse source = .ok tree → tree.ReadsUndeclared name pos →
        check source allowUnresolved =
          .error (.illTyped ⟨.undeclared name, pos⟩) := by
  have isName := declarable_iff.1 declarable
  refine ⟨fun notNumeric => ?_, fun numeric => ?_, ?_⟩
  · rcases exists_parse_initializingSource isName notNumeric with
      ⟨tree, pos, parsed, reads⟩
    constructor
    · intro cursor rest atName
      exact atName.atom_eq_var isName notNumeric
    · exact exists_parse_returningSource isName notNumeric
    · exact ⟨pos, reads.check_source_eq parsed⟩
  · constructor
    intro cursor rest atName
    exact atName.atom_eq_intLit isName numeric
  · intro source tree pos allowUnresolved parsed reads
    exact reads.check_source_eq parsed allowUnresolved

/-- A name that is read back, and one that begins with a numeric letter. -/
theorem declarable_names_read_back_both :
    (Declarable "n一" ∧ ReadsBack "n一") ∧
      (Declarable "一n" ∧ ReadsAsNumber "一n") ∧
      ∃ tree pos,
        parse (initializingSource "n一") = .ok tree ∧
          tree.ReadsUndeclared "n一" pos ∧
          check (initializingSource "n一") true =
            .error (.illTyped ⟨.undeclared "n一", pos⟩) := by
  have isName : IsName "n一" := by decide +kernel
  have plain : "n一".toList.head?.any isNumeric = false := by decide +kernel
  have alsoName : IsName "一n" := by decide +kernel
  have numeric : "一n".toList.head?.any isNumeric = true := by decide +kernel
  rcases declarable_names_read_back (declarable_iff.2 isName) with
    ⟨readsBack, -, undeclared⟩
  rcases declarable_names_read_back (declarable_iff.2 alsoName) with
    ⟨-, readsAsNumber, -⟩
  rcases exists_parse_initializingSource isName plain with
    ⟨tree, pos, parsed, reads⟩
  exact ⟨⟨declarable_iff.2 isName, readsBack plain⟩,
    ⟨declarable_iff.2 alsoName, readsAsNumber numeric⟩,
    tree, pos, parsed, reads, undeclared _ tree pos true parsed reads⟩

/--
The ideograph of the number one is a letter, so it may be declared, but where
a value is expected it is a number: it is returned as such, and an initializer
may read it although it is not declared.
-/
theorem ideograph_not_read_back :
    Declarable "一" ∧
      Parser.atom (.start "一") = .ok (.intLit ⟨1, 1⟩ "一") ⟨⟨1, 1, 2⟩, []⟩ ∧
      parse (returningSource "一") =
        .ok ⟨⟨1, 1⟩, "f", [⟨⟨1, 6⟩, ["一"], some ⟨⟨1, 9⟩, "int"⟩⟩],
          [⟨⟨1, 17⟩, "int"⟩], [.ret ⟨1, 23⟩ (.intLit ⟨1, 30⟩ "一")]⟩ ∧
      (check (initializingSource "一") false).map Checked.kinds =
        .ok [("x", .int)] ∧
      ¬ ∀ name, Declarable name → ReadsBack name := by
  have isName : IsName "一" := by decide +kernel
  have atName : (Cursor.start "一").AtName "一" [] := ⟨rfl, rfl⟩
  have number := atName.atom_eq_intLit isName (by decide +kernel)
  have digits : "一".toList.takeWhile isNumeric = ['一'] := by decide +kernel
  have nothing : "一".toList.dropWhile isNumeric = [] := by decide +kernel
  rw [digits, nothing] at number
  refine ⟨declarable_iff.2 isName, number, ?_, ?_, ?_⟩
  · decide +kernel
  · decide +kernel
  · intro all
    have asVariable := (all "一" (declarable_iff.2 isName)).atom _ _ atName
    rw [number] at asVariable
    cases asVariable

end

end Sprig
