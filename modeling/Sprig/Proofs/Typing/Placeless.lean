import Sprig.Proofs.Outcome
import Sprig.Proofs.Scope
import Sprig.Proofs.Syntax.WellFormed
import Sprig.Typing.Checked

/-!
# Positions play no part in typing

A check carries positions along, to charge an error to one of them, and looks
at none.  A function without positions is therefore checked like the function
itself: the outcome has the same slots and kinds, or the same fault.

`Mirrors erase action other` says that one action does without positions what
another does with them.  It holds of each step of a check and the same step
for the tree without positions, and it is kept by sequences and loops.
-/

namespace Sprig

/-! ## What is left without positions -/

/-- The error without its position. -/
def TypeError.unplaced (error : TypeError) : TypeError :=
  { error with pos := .nowhere }

/-- The binding without the position of its declaration. -/
def Declared.unplaced (declared : Declared) : Declared :=
  { declared with pos := .nowhere }

/-- The state without positions of declarations. -/
def CheckState.unplaced (state : CheckState) : CheckState :=
  { state with scope := state.scope.map Declared.unplaced }

/-- The function without positions, with its scope and arena. -/
def Checked.unplaced (checked : Checked) : Checked :=
  ⟨checked.function.unplaced, checked.scope.map Declared.unplaced,
    checked.arena⟩

namespace Scope

variable {α β γ : Type}

theorem map_map
    (change : α → β)
    (further : β → γ)
    (scope : Scope α) :
    (scope.map change).map further =
      scope.map fun value => further (change value) := by
  induction scope with
  | empty =>
      rfl
  | bind outer name value ih =>
      rw [map, map, map, ih]

theorem get?_map
    (change : α → β)
    (scope : Scope α)
    (name : String) :
    (scope.map change).get? name = (scope.get? name).map change := by
  induction scope with
  | empty =>
      rfl
  | bind outer bound value ih =>
      rw [map, get?, get?, ih]
      split
      · rfl
      · rfl

theorem visible_map (change : α → β) (scope : Scope α) :
    (scope.map change).visible =
      scope.visible.map fun binding => (binding.1, change binding.2) := by
  rw [visible_eq_unshadowed, visible_eq_unshadowed, toList_map,
    ← List.map_reverse, unshadowed_map]

end Scope

/-! ## Actions that look at no position -/

variable {σ α β : Type}

/-- The outcome without positions. -/
def unplacedOutcome
    (erase : σ → σ) :
    EStateM.Result TypeError σ α → EStateM.Result TypeError σ α
  | .ok value state => .ok value (erase state)
  | .error error state => .error error.unplaced (erase state)

/-- An action does without positions what another does with them. -/
def Mirrors
    (erase : σ → σ)
    (action other : EStateM TypeError σ α) : Prop :=
  ∀ state, other (erase state) = unplacedOutcome erase (action state)

namespace Mirrors

variable {erase : σ → σ}

theorem pure (value : α) :
    Mirrors erase (Pure.pure value) (Pure.pure value) :=
  fun _ => rfl

theorem throw
    {error other : TypeError}
    (same : other = error.unplaced) :
    Mirrors erase (MonadExcept.throw error : EStateM TypeError σ α)
      (MonadExcept.throw other) := by
  intro state
  rw [same]
  rfl

theorem bind
    {action other : EStateM TypeError σ α}
    {next otherNext : α → EStateM TypeError σ β}
    (begins : Mirrors erase action other)
    (goesOn : ∀ value, Mirrors erase (next value) (otherNext value)) :
    Mirrors erase (action >>= next) (other >>= otherNext) := by
  intro state
  have mirrored := begins state
  cases outcome : action state with
  | ok value after =>
      rw [outcome] at mirrored
      rw [bind_eq_of_ok outcome, bind_eq_of_ok mirrored]
      exact goesOn value after
  | error error after =>
      rw [outcome] at mirrored
      rw [bind_eq_of_error outcome, bind_eq_of_error mirrored]
      rfl

theorem ite
    {condition : Prop}
    [Decidable condition]
    {positive negative other otherwise : EStateM TypeError σ α}
    (holds : Mirrors erase positive other)
    (fails : Mirrors erase negative otherwise) :
    Mirrors erase (if condition then positive else negative)
      (if condition then other else otherwise) := by
  split
  · exact holds
  · exact fails

/-- What follows depends on the state, and does without positions likewise. -/
theorem get_bind
    {next otherNext : σ → EStateM TypeError σ β}
    (goesOn : ∀ state,
      otherNext (erase state) (erase state) =
        unplacedOutcome erase (next state state)) :
    Mirrors erase (get >>= next) (get >>= otherNext) :=
  goesOn

theorem mapM
    {step otherStep : α → EStateM TypeError σ β}
    (steps : ∀ item, Mirrors erase (step item) (otherStep item))
    (items : List α) :
    Mirrors erase (items.mapM step) (items.mapM otherStep) := by
  induction items with
  | nil =>
      exact .pure []
  | cons item items ih =>
      rw [List.mapM_cons, List.mapM_cons]
      exact (steps item).bind fun _ => ih.bind fun _ => .pure _

theorem forM
    {step otherStep : α → EStateM TypeError σ PUnit}
    (steps : ∀ item, Mirrors erase (step item) (otherStep item))
    (items : List α) :
    Mirrors erase (items.forM step) (items.forM otherStep) := by
  induction items with
  | nil =>
      exact .pure _
  | cons item items ih =>
      exact (steps item).bind fun _ => ih

theorem foldlM
    {step otherStep : β → α → EStateM TypeError σ β}
    (steps : ∀ value item,
      Mirrors erase (step value item) (otherStep value item))
    (items : List α)
    (value : β) :
    Mirrors erase (items.foldlM step value)
      (items.foldlM otherStep value) := by
  induction items generalizing value with
  | nil =>
      exact .pure value
  | cons item items ih =>
      rw [List.foldlM_cons, List.foldlM_cons]
      exact (steps value item).bind fun later => ih later

end Mirrors

/-! ## Steps on the arena -/

theorem mirrors_find (slot : Nat) :
    Mirrors id (Arena.find slot) (Arena.find slot) := by
  intro arena
  rw [id, Arena.find]
  split
  · rfl
  · rfl

theorem mirrors_stored (slot : Nat) :
    Mirrors id (Arena.stored slot) (Arena.stored slot) := by
  intro arena
  rw [id, Arena.stored]
  split
  · rfl
  · rfl

theorem mirrors_get (slot : Nat) :
    Mirrors id (Arena.get slot) (Arena.get slot) :=
  .bind (mirrors_find slot) fun root => mirrors_stored root

theorem mirrors_unify (first second : Nat) (site : Pos) :
    Mirrors id (Arena.unify first second (some site))
      (Arena.unify first second (some .nowhere)) := by
  refine .bind (mirrors_find first) fun firstRoot => ?_
  refine .bind (mirrors_find second) fun secondRoot => ?_
  refine .ite (.pure ()) ?_
  refine .bind (mirrors_stored firstRoot) fun firstKind => ?_
  refine .bind (mirrors_stored secondRoot) fun secondKind => ?_
  refine .ite (.ite (.ite (.pure ()) (.throw rfl)) ?_) (.ite ?_ (.pure ()))
  · exact fun _ => rfl
  · exact fun _ => rfl

theorem mirrors_onArena
    {action other : ArenaM α}
    (mirrors : Mirrors id action other) :
    Mirrors CheckState.unplaced (Check.onArena action)
      (Check.onArena other) := by
  intro state
  have mirrored : other state.arena = unplacedOutcome id (action state.arena) :=
    mirrors state.arena
  show Check.onArena other state.unplaced = _
  rw [Check.onArena, Check.onArena, show state.unplaced.arena = state.arena from
    rfl, mirrored]
  cases action state.arena with
  | ok value arena =>
      rfl
  | error error arena =>
      rfl

/-! ## Steps of a check -/

/-- One action without positions and one with them. -/
abbrev Placeless (action other : Check α) : Prop :=
  Mirrors CheckState.unplaced action other

theorem placeless_fail (fault : TypeFault) (pos : Pos) :
    Placeless (Check.fail fault pos : Check α) (Check.fail fault .nowhere) :=
  .throw rfl

theorem placeless_declare (name : String) (kind : Kind) (pos : Pos) :
    Placeless (Check.declare name kind pos)
      (Check.declare name kind .nowhere) :=
  fun _ => rfl

theorem placeless_lookup (name : String) (pos : Pos) :
    Placeless (Check.lookup name pos) (Check.lookup name .nowhere) := by
  refine .get_bind fun state => ?_
  rw [show state.unplaced.scope.get? name =
    (state.scope.get? name).map Declared.unplaced from Scope.get?_map ..]
  cases state.scope.get? name with
  | none =>
      rfl
  | some declared =>
      rfl

theorem placeless_convert (type : TypeRef) :
    Placeless (Check.convert type) (Check.convert type.unplaced) := by
  have name : type.unplaced.name = type.name := rfl
  rw [Check.convert, Check.convert, name]
  cases Kind.ofName? type.name with
  | none =>
      exact placeless_fail _ type.pos
  | some kind =>
      exact .pure kind

theorem placeless_declaredKind (decl : Decl) :
    Placeless (Check.declaredKind decl) (Check.declaredKind decl.unplaced) := by
  rcases decl with ⟨pos, names, type⟩
  cases type with
  | none =>
      exact .pure _
  | some type =>
      exact placeless_convert type

theorem placeless_new (kind : Kind) :
    Placeless (Check.onArena (Arena.new kind)) (Check.onArena (Arena.new kind)) :=
  fun _ => rfl

theorem placeless_slotOf (value : Expr) :
    Placeless (Check.slotOf value) (Check.slotOf value.unplaced) := by
  cases value with
  | intLit pos text =>
      exact placeless_new .int
  | var pos name =>
      exact placeless_lookup name pos
  | tuple pos elements =>
      exact placeless_fail _ pos
  | bare pos =>
      exact placeless_fail _ pos

theorem components_unplaced (value : Expr) :
    value.unplaced.components = value.components.map Expr.unplaced := by
  cases value with
  | intLit pos text =>
      rfl
  | var pos name =>
      rfl
  | tuple pos elements =>
      exact Expr.listUnplaced_eq_map elements
  | bare pos =>
      rfl

theorem placeless_slotsOf (value : Expr) :
    Placeless (Check.slotsOf value) (Check.slotsOf value.unplaced) := by
  rw [Check.slotsOf, Check.slotsOf, components_unplaced, List.mapM_map]
  exact .mapM placeless_slotOf _

theorem placeless_checkArity
    (place : Pairing)
    (expected found : Nat)
    (pos : Pos) :
    Placeless (Check.checkArity place expected found pos)
      (Check.checkArity place expected found .nowhere) :=
  .ite (.pure ()) (placeless_fail _ pos)

theorem placeless_agree (first second : Nat) (site : Pos) :
    Placeless (Check.agree first second site)
      (Check.agree first second .nowhere) :=
  mirrors_onArena (mirrors_unify first second site)

theorem placeless_bindName
    (name : String)
    (kind : Kind)
    (pos site : Pos)
    (values : List Nat) :
    Placeless (Check.bindName name kind pos site values)
      (Check.bindName name kind .nowhere .nowhere values) := by
  refine .bind (placeless_declare name kind pos) fun slot => ?_
  cases values with
  | nil =>
      exact .pure []
  | cons value others =>
      exact .bind (placeless_agree slot value site) fun _ => .pure others

theorem placeless_bindDecl
    (decl : Decl)
    (site : Pos)
    (values : List Nat) :
    Placeless (Check.bindDecl decl site values)
      (Check.bindDecl decl.unplaced .nowhere values) :=
  .bind (placeless_declaredKind decl) fun kind =>
    .foldlM (fun values name =>
      placeless_bindName name kind decl.pos site values) decl.idents values

theorem nameCount_unplaced (decls : List Decl) :
    Check.nameCount (decls.map Decl.unplaced) = Check.nameCount decls := by
  rw [Check.nameCount, Check.nameCount, List.foldl_map]
  rfl

theorem placeless_initializers
    (pos : Pos)
    (decls : List Decl)
    (value : Option Expr) :
    Placeless (Check.initializers pos decls value)
      (Check.initializers .nowhere (decls.map Decl.unplaced)
        (value.map Expr.unplaced)) := by
  cases value with
  | none =>
      exact .pure []
  | some value =>
      rw [Option.map_some, Check.initializers, Check.initializers,
        nameCount_unplaced]
      exact .bind (placeless_slotsOf value) fun values =>
        .bind (placeless_checkArity _ _ _ pos) fun _ => .pure values

theorem placeless_declStmt
    (pos : Pos)
    (decls : List Decl)
    (value : Option Expr) :
    Placeless (Check.declStmt pos decls value)
      (Check.declStmt .nowhere (decls.map Decl.unplaced)
        (value.map Expr.unplaced)) := by
  refine .bind (placeless_initializers pos decls value) fun values => ?_
  rw [List.foldlM_map]
  exact .bind
    (.foldlM (fun values decl => placeless_bindDecl decl pos values) decls values)
    fun _ => .pure ()

theorem placeless_assignStmt
    (pos : Pos)
    (names : List String)
    (value : Expr) :
    Placeless (Check.assignStmt pos names value)
      (Check.assignStmt .nowhere names value.unplaced) :=
  .bind (.mapM (fun name => placeless_lookup name pos) names) fun targets =>
  .bind (placeless_slotsOf value) fun values =>
  .bind (placeless_checkArity _ _ _ pos) fun _ =>
    .forM (fun pair => placeless_agree pair.1 pair.2 pos) (targets.zip values)

theorem placeless_returnStmt (pos : Pos) (value : Expr) :
    Placeless (Check.returnStmt pos value)
      (Check.returnStmt .nowhere value.unplaced) := by
  refine .bind (placeless_slotsOf value) fun values => .get_bind fun state => ?_
  have goesOn : Placeless
      (do
        Check.checkArity .ret state.rets.length values.length pos
        (state.rets.zip values).forM fun pair => do
          let expected ← Check.onArena (Arena.new pair.1)
          Check.agree expected pair.2 pos)
      (do
        Check.checkArity .ret state.rets.length values.length .nowhere
        (state.rets.zip values).forM fun pair => do
          let expected ← Check.onArena (Arena.new pair.1)
          Check.agree expected pair.2 .nowhere) :=
    .bind (placeless_checkArity _ _ _ pos) fun _ =>
      .forM (fun pair => .bind (placeless_new pair.1) fun expected =>
        placeless_agree expected pair.2 pos) (state.rets.zip values)
  exact goesOn state

theorem placeless_stmt (stmt : Stmt) :
    Placeless (Check.stmt stmt) (Check.stmt stmt.unplaced) := by
  cases stmt with
  | assign pos names value =>
      exact placeless_assignStmt pos names value
  | decl pos decls value =>
      exact placeless_declStmt pos decls value
  | ret pos value =>
      exact placeless_returnStmt pos value
  | bare pos =>
      exact placeless_fail _ pos

theorem placeless_param (decl : Decl) :
    Placeless (Check.param decl) (Check.param decl.unplaced) :=
  .bind (placeless_declaredKind decl) fun kind =>
    .forM (fun name => .bind (placeless_declare name kind decl.pos)
      fun _ => .pure ()) decl.idents

theorem placeless_function (function : Function) :
    Placeless (Check.function function) (Check.function function.unplaced) := by
  simp only [Check.function, Function.unplaced, List.forM_eq_forM,
    List.forM_map, List.mapM_map]
  exact .bind (.forM placeless_param function.params) fun _ =>
    .bind (.mapM placeless_convert function.rets) fun kinds =>
    .bind (fun _ => rfl) fun _ => .forM placeless_stmt function.body

theorem placeless_resolved : Placeless Check.resolved Check.resolved := by
  have step (name : String) (declared : Declared) :
      Placeless
        (do
          let kind ← Check.onArena (Arena.get declared.slot)
          if kind.isConcrete then
            return ()
          else
            Check.fail (.unresolved name) declared.pos)
        (do
          let kind ← Check.onArena (Arena.get declared.slot)
          if kind.isConcrete then
            return ()
          else
            Check.fail (.unresolved name) .nowhere) :=
    .bind (mirrors_onArena (mirrors_get declared.slot)) fun _ =>
      .ite (.pure ()) (placeless_fail _ declared.pos)
  refine .get_bind fun state => ?_
  have visible : state.unplaced.scope.visible =
      state.scope.visible.map fun binding =>
        (binding.1, binding.2.unplaced) :=
    Scope.visible_map Declared.unplaced state.scope
  rw [visible, List.forM_eq_forM, List.forM_map]
  exact Mirrors.forM (fun binding => step binding.1 binding.2)
    state.scope.visible state

theorem placeless_program (code : Function) (allowUnresolved : Bool) :
    Placeless (Check.program code allowUnresolved)
      (Check.program code.unplaced allowUnresolved) :=
  .bind (placeless_function code) fun _ =>
    .ite (.pure ()) placeless_resolved

/-- Without positions a function is checked like the function itself. -/
theorem check_unplaced (function : Function) (allowUnresolved : Bool) :
    function.unplaced.check allowUnresolved =
      ((function.check allowUnresolved).map Checked.unplaced).mapError
        TypeError.unplaced := by
  have outcome : Check.program function.unplaced allowUnresolved .initial =
      unplacedOutcome CheckState.unplaced
        (Check.program function allowUnresolved .initial) :=
    placeless_program function allowUnresolved .initial
  rw [Function.check, Function.check, outcome]
  cases Check.program function allowUnresolved .initial with
  | ok value state =>
      rfl
  | error error state =>
      rfl

end Sprig
