import Sprig.Proofs.Typing.Acceptance
import Sprig.Proofs.Typing.Coherence

/-!
# Inference on source text

The tree of a source gives a kind to every name at once, by an annotation or
by an initializer that is typed before the name is bound.  While such a tree
is checked every binding is therefore known to be an `int` whenever a
statement has ended, be it shadowed or not, and also where the check stops at
a fault.

`Known` says this of a state.  In a known state two slots that meet are both
`int`, so they never clash and nothing is left to learn, and the search for
names without a kind finds none.  Kinds that differ and kinds that stay open
are thus no faults of a source, and whether open kinds are allowed makes no
difference.
-/

namespace Sprig

/-- Bindings are `int`, and so is whatever is promised. -/
structure CheckState.Known (state : CheckState) : Prop where
  coherent : state.Coherent
  int : ∀ binding ∈ state.scope.toList,
    state.arena.kindOf binding.2.slot = .int
  promised : ∀ kind ∈ state.rets, kind = .int

/-- The classes of the faults that are left for a source that parses. -/
def sourceCategories : List String :=
  ["ArityMismatch", "UndeclaredIdentifier", "UnknownTypeName"]

/-- States are known, and errors are those of a source. -/
def inference : Demand where
  states := CheckState.Known
  errors := fun error => error.fault.category ∈ sourceCategories

theorem inference_errors_arity
    {place : Pairing}
    {expected found : Nat}
    {pos : Pos} :
    inference.errors ⟨.arity place expected found, pos⟩ := by
  simp [inference, TypeFault.category, sourceCategories]

theorem inference_errors_undeclared {name : String} {pos : Pos} :
    inference.errors ⟨.undeclared name, pos⟩ := by
  simp [inference, TypeFault.category, sourceCategories]

theorem inference_errors_unknownType {name : String} {pos : Pos} :
    inference.errors ⟨.unknownType name, pos⟩ := by
  simp [inference, TypeFault.category, sourceCategories]

/-- A slot of the arena whose kind is `int`. -/
def HoldsInt (state : CheckState) (slot : Nat) : Prop :=
  Inside state slot ∧ state.arena.kindOf slot = .int

theorem lasts_holdsInt : Lasts HoldsInt := by
  rintro before after adds slot ⟨inside, isInt⟩
  refine ⟨lasts_inside adds inside, ?_⟩
  have concrete : (before.arena.kindOf slot).isConcrete = true := by
    rw [isInt]
    rfl
  rw [adds.learns.kindOf_eq inside concrete, isInt]

namespace CheckState

variable {state : CheckState}

theorem known_initial : initial.Known where
  coherent := coherent_initial
  int := List.forall_mem_nil _
  promised := List.forall_mem_nil _

namespace Known

theorem holdsInt_of_binding
    {slot : Nat}
    (known : state.Known)
    (bound : ∃ binding ∈ state.scope.toList, binding.2.slot = slot) :
    HoldsInt state slot := by
  rcases bound with ⟨binding, member, rfl⟩
  exact ⟨known.coherent.inside binding member, known.int binding member⟩

theorem push
    (known : state.Known)
    (kind : Kind) :
    Known { state with arena := state.arena.push kind } where
  coherent := known.coherent.push kind
  int := by
    intro binding member
    have inside := known.coherent.inside binding member
    show (state.arena.push kind).kindOf binding.2.slot = .int
    rw [known.coherent.tidy.kindOf_push_of_lt kind inside]
    exact known.int binding member
  promised := known.promised

/-- A name may be bound to a fresh slot once the kind of the slot is `int`. -/
theorem declared
    {arena : Arena}
    (known : state.Known)
    (name : String)
    (kind : Kind)
    (pos : Pos)
    (tidy : arena.Tidy)
    (learns : (state.arena.push kind).Learns arena)
    (isInt : arena.kindOf state.arena.size = .int) :
    Known { state.declared name kind pos with arena } where
  coherent :=
    (known.coherent.declared name kind pos).withArena tidy learns.size_le
  int := by
    refine List.forall_mem_cons.2 ⟨isInt, ?_⟩
    intro binding member
    have held : HoldsInt state binding.2.slot :=
      known.holdsInt_of_binding ⟨binding, member, rfl⟩
    have pushed := known.coherent.tidy.learns_push kind
    exact (lasts_holdsInt (.of_learns (pushed.trans learns)) held).2
  promised := known.promised

end Known

end CheckState

namespace Check

variable {state : CheckState}

/-! ## Values -/

theorem infers_lookup
    (known : state.Known)
    (name : String)
    (pos : Pos) :
    Keeps inference state HoldsInt (lookup name pos state) := by
  refine (Keeps.lookup known inference_errors_undeclared).weaken ?_
  intro after slot known _ bound
  exact CheckState.Known.holdsInt_of_binding known bound

theorem infers_new_int (known : state.Known) :
    Keeps inference state HoldsInt (onArena (Arena.new .int) state) := by
  have tidy := known.coherent.tidy
  rw [onArena_new]
  refine .ok (known.push .int) (.of_learns (tidy.learns_push .int)) ?_
  refine ⟨?_, tidy.kindOf_push_self .int⟩
  rw [Inside, Arena.size_push]
  exact Nat.lt_succ_self _

theorem infers_slotOf
    {value : Expr}
    (known : state.Known)
    (isAtom : value.IsAtom) :
    Keeps inference state HoldsInt (slotOf value state) := by
  cases value with
  | intLit pos text =>
      exact infers_new_int known
  | var pos name =>
      exact infers_lookup known name pos
  | tuple pos elements =>
      exact isAtom.elim
  | bare pos =>
      exact isAtom.elim

theorem infers_slotsOf
    {value : Expr}
    (known : state.Known)
    (isValue : value.IsValue) :
    Keeps inference state
      (fun after slots => ∀ slot ∈ slots, HoldsInt after slot)
      (slotsOf value state) :=
  .mapM lasts_holdsInt known fun component member _ known _ =>
    infers_slotOf known (isValue.areAtoms component member)

/-- Slots that hold an `int` agree already. -/
theorem agree_eq
    {first second : Nat}
    (known : state.Known)
    (firstInt : HoldsInt state first)
    (secondInt : HoldsInt state second)
    (site : Pos) :
    agree first second site state = .ok () state := by
  have same := firstInt.2.trans secondInt.2.symm
  rw [agree, onArena,
    known.coherent.tidy.unify_of_eq firstInt.1 secondInt.1 same]

/-! ## Declarations -/

/-- A fresh slot of unknown kind takes the kind of a slot that holds `int`. -/
theorem agree_unknown
    {value : Nat}
    (known : state.Known)
    (valueInt : HoldsInt state value)
    (name : String)
    (pos site : Pos) :
    ∃ after,
      agree state.arena.size value site (state.declared name .unknown pos) =
          .ok () after ∧
        after.Known ∧ state.Adds after := by
  have coherent := known.coherent.declared name .unknown pos
  have adds := CheckState.adds_declared known.coherent.tidy name .unknown pos
  have unknown := known.coherent.tidy.kindOf_push_self .unknown
  have slotInside := coherent.inside _ (.head _)
  rcases lasts_holdsInt adds valueInt with ⟨valueInside, isInt⟩
  rcases
      coherent.tidy.unify_of_unknown_left slotInside valueInside unknown
        (by rw [isInt]; rfl) (some site) with
    ⟨arena, unified, settles⟩
  rw [isInt] at settles
  have kinds := coherent.tidy.kinds_of_unify slotInside valueInside unified
  have learns := settles.learns unknown rfl kinds
  refine ⟨{ state.declared name .unknown pos with arena }, ?_, ?_, ?_⟩
  · rw [agree, onArena, unified]
  · exact known.declared name .unknown pos settles.tidy learns
      settles.kindOf_self
  · exact adds.trans (.of_learns learns)

/-- A name is known from its annotation, or else from the value it meets. -/
theorem infers_bindName
    {typed : Bool}
    {values : List Nat}
    (known : state.Known)
    (areInt : ∀ value ∈ values, HoldsInt state value)
    (enough : typed = true ∨ values ≠ [])
    (name : String)
    (pos site : Pos) :
    Keeps inference state
      (fun after left => left = values.tail ∧
        ∀ value ∈ left, HoldsInt after value)
      (bindName name (if typed then .int else .unknown) pos site
        values state) := by
  have tidy := known.coherent.tidy
  -- With an annotation the slot starts as `int` and a value only confirms it;
  -- without one there is a value, and the slot takes its kind.
  cases typed with
  | true =>
      have isInt := tidy.kindOf_push_self .int
      have knownAfter : (state.declared name .int pos).Known :=
        known.declared name .int pos (tidy.push .int) (.refl _) isInt
      have adds := CheckState.adds_declared tidy name .int pos
      rw [if_pos rfl]
      cases values with
      | nil =>
          rw [bindName_nil]
          exact .ok knownAfter adds ⟨rfl, List.forall_mem_nil _⟩
      | cons value others =>
          have areInt := lasts_holdsInt.all adds areInt
          rcases List.forall_mem_cons.1 areInt with ⟨valueInt, othersInt⟩
          have slotInt : HoldsInt (state.declared name .int pos)
              state.arena.size :=
            ⟨knownAfter.coherent.inside _ (.head _), isInt⟩
          rw [bindName_cons,
            bind_eq_of_ok (agree_eq knownAfter slotInt valueInt site)]
          exact .ok knownAfter adds ⟨rfl, othersInt⟩
  | false =>
      rcases List.exists_cons_of_ne_nil (enough.resolve_left Bool.false_ne_true)
        with ⟨value, others, rfl⟩
      rcases List.forall_mem_cons.1 areInt with ⟨valueInt, othersInt⟩
      rcases agree_unknown known valueInt name pos site with
        ⟨after, agreed, knownAfter, adds⟩
      rw [if_neg Bool.false_ne_true, bindName_cons, bind_eq_of_ok agreed]
      exact .ok knownAfter adds ⟨rfl, lasts_holdsInt.all adds othersInt⟩

/-- The names of one declaration meet as many values, or need none. -/
theorem infers_bindNames
    {typed : Bool}
    {values : List Nat}
    (idents : List String)
    (known : state.Known)
    (areInt : ∀ value ∈ values, HoldsInt state value)
    (enough : typed = true ∨ idents.length ≤ values.length)
    (pos site : Pos) :
    Keeps inference state
      (fun after left => left = values.drop idents.length ∧
        ∀ value ∈ left, HoldsInt after value)
      (idents.foldlM
        (fun values name =>
          bindName name (if typed then .int else .unknown) pos site values)
        values state) := by
  induction idents generalizing values state with
  | nil =>
      exact .pure known ⟨rfl, areInt⟩
  | cons name idents ih =>
      have nonempty : typed = true ∨ values ≠ [] := by
        apply enough.imp id
        rintro atLeast rfl
        exact absurd atLeast (Nat.not_succ_le_zero _)
      rw [List.foldlM_cons]
      refine (infers_bindName known areInt nonempty name pos site).bind ?_
      rintro _ after known _ ⟨rfl, areInt⟩
      have enoughLeft : typed = true ∨ idents.length ≤ values.tail.length := by
        apply enough.imp id
        intro atLeast
        rw [List.length_tail]
        exact Nat.le_sub_one_of_lt atLeast
      refine (ih known areInt enoughLeft).weaken ?_
      rintro _ left - - ⟨rfl, areInt⟩
      refine ⟨?_, areInt⟩
      rw [← List.drop_one, List.drop_drop, List.length_cons, Nat.add_comm]

theorem infers_bindDecl
    {decl : Decl}
    {values : List Nat}
    (known : state.Known)
    (areInt : ∀ value ∈ values, HoldsInt state value)
    (enough : decl.type.isSome = true ∨ decl.idents.length ≤ values.length)
    (site : Pos) :
    Keeps inference state
      (fun after left => left = values.drop decl.idents.length ∧
        ∀ value ∈ left, HoldsInt after value)
      (bindDecl decl site values state) := by
  rw [bindDecl]
  refine (Keeps.declaredKind decl known
    fun _ _ => inference_errors_unknownType).bind ?_
  rintro _ later known adds rfl
  exact infers_bindNames decl.idents known (lasts_holdsInt.all adds areInt)
    enough decl.pos site

theorem infers_bindDecls
    {values : List Nat}
    (decls : List Decl)
    (known : state.Known)
    (areInt : ∀ value ∈ values, HoldsInt state value)
    (enough : (∀ decl ∈ decls, decl.type.isSome = true) ∨
      (declaredNames decls).length ≤ values.length)
    (site : Pos) :
    Keeps inference state (fun _ _ => True)
      (decls.foldlM (fun values decl => bindDecl decl site values)
        values state) := by
  induction decls generalizing values state with
  | nil =>
      exact .pure known trivial
  | cons decl decls ih =>
      rw [declaredNames, List.flatMap_cons, List.length_append] at enough
      have enoughHere :
          decl.type.isSome = true ∨ decl.idents.length ≤ values.length :=
        enough.imp (fun typed => typed decl (.head _)) Nat.le_of_add_right_le
      rw [List.foldlM_cons]
      refine (infers_bindDecl known areInt enoughHere site).bind ?_
      rintro _ after known _ ⟨rfl, areInt⟩
      apply ih known areInt
      apply enough.imp (fun typed decl member => typed decl (.tail _ member))
      intro atLeast
      rw [List.length_drop]
      exact Nat.le_sub_of_add_le' atLeast

theorem infers_declStmt
    {decls : List Decl}
    {value : Option Expr}
    (known : state.Known)
    (oneWay : DeclaresOneWay decls value)
    (pos : Pos) :
    Keeps inference state (fun _ _ => True)
      (declStmt pos decls value state) := by
  rw [declStmt]
  refine (Keeps.initializers lasts_holdsInt known
    (fun _ _ _ => inference_errors_arity)
    (fun initial isInitial _ known =>
      infers_slotsOf known (oneWay.isValue initial isInitial))).bind ?_
  rintro values later known _ ⟨areInt, balanced⟩
  -- Every name is annotated, or there is an initializer with a value for each.
  have enough : (∀ decl ∈ decls, decl.type.isSome = true) ∨
      (declaredNames decls).length ≤ values.length := by
    refine oneWay.typed.imp id fun isInitialized => ?_
    have asMany := (balanced isInitialized).trans (nameCount_eq decls)
    exact Nat.le_of_eq asMany.symm
  exact (infers_bindDecls decls known areInt enough pos).discard

/-! ## Assignments and returns -/

theorem infers_agree
    {first second : Nat}
    (known : state.Known)
    (firstInt : HoldsInt state first)
    (secondInt : HoldsInt state second)
    (site : Pos) :
    Keeps inference state (fun _ _ => True)
      (agree first second site state) := by
  rw [agree_eq known firstInt secondInt]
  exact .ok known (.refl state) trivial

theorem infers_assignStmt
    {value : Expr}
    (known : state.Known)
    (isValue : value.IsValue)
    (pos : Pos)
    (names : List String) :
    Keeps inference state (fun _ _ => True)
      (assignStmt pos names value state) :=
  .assignStmt lasts_holdsInt known
    (fun _ _ _ => inference_errors_arity)
    (fun name _ known => infers_lookup known name pos)
    (fun _ known => infers_slotsOf known isValue)
    (fun _ _ _ known first second => infers_agree known first second pos)

theorem infers_returnStmt
    {value : Expr}
    (known : state.Known)
    (isValue : value.IsValue)
    (pos : Pos) :
    Keeps inference state (fun _ _ => True) (returnStmt pos value state) := by
  refine .returnStmt lasts_holdsInt known
    (fun _ _ _ => inference_errors_arity)
    (fun _ known => infers_slotsOf known isValue)
    ?_
    (fun _ _ _ known first second => infers_agree known first second pos)
  intro before knownBefore kind isPromised later known
  rcases knownBefore.promised kind isPromised with rfl
  exact infers_new_int known

theorem infers_stmt
    {statement : Stmt}
    (known : state.Known)
    (wellFormed : statement.WellFormed) :
    Keeps inference state (fun _ _ => True) (stmt statement state) := by
  cases statement with
  | decl pos decls value =>
      exact infers_declStmt known wellFormed.2.2 pos
  | assign pos names value =>
      exact infers_assignStmt known wellFormed.2.2 pos names
  | ret pos value =>
      exact infers_returnStmt known wellFormed pos
  | bare pos =>
      exact wellFormed.elim

/-! ## Functions -/

/-- Parameters are always annotated. -/
theorem infers_param
    {decl : Decl}
    (known : state.Known)
    (isGroup : decl.IsGroup) :
    Keeps inference state (fun _ _ => True) (param decl state) := by
  rcases isGroup with ⟨-, type, annotated, -⟩
  rw [param]
  refine (Keeps.declaredKind decl known
    fun _ _ => inference_errors_unknownType).bind ?_
  rintro _ _ known _ rfl
  rw [Option.isSome_of_mem annotated, if_pos rfl]
  refine .forM known ?_
  intro name _ later known _
  have tidy := known.coherent.tidy
  have declared : Keeps inference later (fun _ _ => True)
      (declare name .int decl.pos later) := by
    rw [declare_eq]
    exact .ok
      (known.declared name .int decl.pos (tidy.push .int) (.refl _)
        (tidy.kindOf_push_self .int))
      (CheckState.adds_declared tidy name .int decl.pos) trivial
  exact declared.discard

theorem infers_setRets
    {kinds : List Kind}
    (known : state.Known)
    (areInt : ∀ kind ∈ kinds, kind = .int) :
    Keeps inference state (fun _ _ => True) (setRets kinds state) := by
  have kept := (keeps_setRets known.coherent kinds).finalState
  exact .ok ⟨kept.1, known.int, areInt⟩ kept.2 trivial

theorem infers_function
    {code : Function}
    (known : state.Known)
    (wellFormed : code.WellFormed) :
    Keeps inference state (fun _ _ => True) (function code state) :=
  .function known
    (fun decl member _ known =>
      infers_param known (wellFormed.params decl member))
    (fun _ _ => inference_errors_unknownType)
    (fun _ areInt _ known => infers_setRets known areInt)
    (fun statement member _ known =>
      infers_stmt known (wellFormed.body statement member))

/-- In a known state no visible name lacks a kind. -/
theorem resolved_of_known (known : state.Known) :
    resolved state = .ok () state := by
  rw [resolved_eq]
  apply forM_eq_of_forall
  intro binding visible
  have member := Scope.mem_of_mem_visible visible
  rw [concrete_eq known.coherent (known.coherent.inside binding member),
    known.int binding member]
  rfl

/-! ## Sources -/

end Check

/-- A function with only its first statements. -/
def Function.upTo (code : Function) (count : Nat) : Function :=
  { code with body := code.body.take count }

/-- The state in which a run up to a number of statements ends. -/
def Check.stateAfter (code : Function) (count : Nat) : CheckState :=
  finalState (Check.function (code.upTo count) .initial)

/-- A run goes on from what it does up to a number of statements. -/
theorem Check.function_eq_upTo_bind (code : Function) (count : Nat) :
    Check.function code =
      Check.function (code.upTo count) >>= fun _ =>
        (code.body.drop count).forM Check.stmt := by
  have parts : (code.body.forM Check.stmt : Check Unit) =
      (code.body.take count).forM Check.stmt >>= fun _ =>
        (code.body.drop count).forM Check.stmt := by
    conv_lhs => rw [← List.take_append_drop count code.body]
    exact List.forM_append
  simp only [Check.function, Function.upTo, parts, bind_assoc]

theorem Function.WellFormed.upTo
    {code : Function}
    (wellFormed : code.WellFormed)
    (count : Nat) :
    (code.upTo count).WellFormed :=
  { wellFormed with
    body := fun statement member =>
      wellFormed.body statement (List.mem_of_mem_take member) }

theorem Check.known_stateAfter
    {code : Function}
    (wellFormed : code.WellFormed)
    (count : Nat) :
    (Check.stateAfter code count).Known :=
  (infers_function CheckState.known_initial
    (wellFormed.upTo count)).finalState.1

/-- Whether unresolved names are allowed makes no difference. -/
theorem Check.program_eq_of_wellFormed
    {code : Function}
    (wellFormed : code.WellFormed) :
    Check.program code true .initial = Check.program code false .initial := by
  have keeps := infers_function CheckState.known_initial wellFormed
  rw [program, program]
  cases outcome : function code .initial with
  | ok value state =>
      rw [outcome] at keeps
      rw [bind_eq_of_ok outcome, bind_eq_of_ok outcome]
      exact (resolved_of_known keeps.finalState.1).symm
  | error error state =>
      rw [bind_eq_of_error outcome, bind_eq_of_error outcome]

theorem Check.infers_program
    {code : Function}
    (wellFormed : code.WellFormed)
    (allowUnresolved : Bool) :
    Keeps inference .initial (fun _ _ => True)
      (Check.program code allowUnresolved .initial) := by
  have allowed : Keeps inference .initial (fun _ _ => True)
      (Check.program code true .initial) := by
    refine (infers_function CheckState.known_initial wellFormed).bind ?_
    intro _ _ known _ _
    exact .pure known trivial
  cases allowUnresolved with
  | true =>
      exact allowed
  | false =>
      rw [← program_eq_of_wellFormed wellFormed]
      exact allowed

/--
A source that parses has no typing faults other than unequal counts, names
that are not declared and types that are not known.  Whenever a statement of
it has been checked, and also where the check stops, every binding, shadowed
or not, holds an `int`.  To allow unresolved names changes nothing about the
outcome.
-/
theorem inference_never_fails
    {source : String}
    {function : Function}
    (parsed : parse source = .ok function) :
    (∀ (allowUnresolved : Bool) (diagnostic : Diagnostic),
      check source allowUnresolved = .error diagnostic →
        diagnostic.category ∈ sourceCategories) ∧
      (∀ count : Nat,
        (Check.function function =
          Check.function (function.upTo count) >>= fun _ =>
            (function.body.drop count).forM Check.stmt) ∧
        ∀ binding ∈ (Check.stateAfter function count).scope.toList,
          Check.onArena (Arena.get binding.2.slot)
              (Check.stateAfter function count) =
            .ok .int (Check.stateAfter function count)) ∧
        check source true = check source false := by
  rcases exists_layout_of_parse parsed with ⟨wellFormed, -⟩
  refine ⟨?_, ?_, ?_⟩
  · intro allowUnresolved diagnostic fails
    have keeps := Check.infers_program wellFormed allowUnresolved
    rw [check, parsed] at fails
    simp only [Function.check] at fails
    generalize Check.program function allowUnresolved .initial = outcome
      at keeps fails
    cases keeps with
    | ok _ _ _ =>
        cases fails
    | error _ _ allowed =>
        cases fails
        exact allowed
  · intro count
    refine ⟨Check.function_eq_upTo_bind function count, ?_⟩
    intro binding member
    have known := Check.known_stateAfter wellFormed count
    have inside := known.coherent.inside binding member
    rw [Check.onArena_get known.coherent inside, known.int binding member]
  · have same := Check.program_eq_of_wellFormed wellFormed
    simp only [check, parsed, Function.check, same]

/-- The return has a value too many, after `x` has been declared twice. -/
theorem inference_never_fails_arity :
    ∃ (function : Function) (error : TypeError),
      parse "fn f(x: int) -> int \x7b y, x := x, 1 return y, x \x7d" =
          .ok function ∧
        check "fn f(x: int) -> int \x7b y, x := x, 1 return y, x \x7d" true =
          .error (.illTyped error) ∧
        check "fn f(x: int) -> int \x7b y, x := x, 1 return y, x \x7d" false =
          .error (.illTyped error) ∧
        error.fault = .arity .ret 1 2 ∧
        error.fault.category ∈ sourceCategories ∧
        (Check.stateAfter function 1).scope.toList.map Prod.fst =
          ["x", "y", "x"] ∧
        ∀ binding ∈ (Check.stateAfter function 1).scope.toList,
          Check.onArena (Arena.get binding.2.slot)
              (Check.stateAfter function 1) =
            .ok .int (Check.stateAfter function 1) := by
  have parsed :
      parse "fn f(x: int) -> int \x7b y, x := x, 1 return y, x \x7d" =
        .ok
          ⟨⟨1, 1⟩, "f", [⟨⟨1, 6⟩, ["x"], some ⟨⟨1, 9⟩, "int"⟩⟩],
            [⟨⟨1, 17⟩, "int"⟩],
            [ .decl ⟨1, 23⟩
                [⟨⟨1, 23⟩, ["y"], none⟩, ⟨⟨1, 23⟩, ["x"], none⟩]
                (some (.tuple ⟨1, 31⟩
                  [.var ⟨1, 31⟩ "x", .intLit ⟨1, 34⟩ "1"])),
              .ret ⟨1, 36⟩ (.tuple ⟨1, 43⟩
                [.var ⟨1, 43⟩ "y", .var ⟨1, 46⟩ "x"]) ]⟩ := by
    decide +kernel
  have fails :
      check "fn f(x: int) -> int \x7b y, x := x, 1 return y, x \x7d" true =
        .error (.illTyped ⟨.arity .ret 1 2, ⟨1, 36⟩⟩) := by
    rw [check, parsed]
    rfl
  rcases inference_never_fails parsed with ⟨categories, states, same⟩
  exact ⟨_, _, parsed, fails, same ▸ fails, rfl, categories true _ fails, rfl,
    (states 1).2⟩

end Sprig
