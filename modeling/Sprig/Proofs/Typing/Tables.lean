import Mathlib.Logic.Function.Basic
import Mathlib.Logic.Relation
import Sprig.Proofs.Typing.FlatStore
import Sprig.Proofs.Typing.Forest
import Sprig.Proofs.Typing.Refinement
import Sprig.Proofs.Typing.Session

/-!
# A check with its tables apart

Two things are built into the form of a check.  A binding carries the position
of its declaration, and loops over two lists take them in pairs or as what is
left of them.  Here both are undone: the sites of declarations are a table of
their own, which a declaration writes after it has bound the name, and lists
are read at an index that a loop counts.  Each such look-up may fail, with the
same fault as the look-up of a slot outside the arena.

From any state that a session may reach, the check with its tables apart has
the outcome of the check, so none of these look-ups ever fails.  The table has
a site for exactly the slots of the scope, a newer binding has a greater slot,
and following parents in the arena never leads back.
-/

namespace Sprig

/-! ## States and steps -/

/-- A state with the sites of declarations in a table of their own. -/
structure Tables where
  state : CheckState
  sites : Nat → Option Pos

/-- Actions of a check with its tables apart. -/
abbrev Tabled := EStateM TypeError Tables

variable {α β γ δ : Type}

namespace Tabled

/-- An action that has no use for the table of sites. -/
def lift (action : Check α) : Tabled α := fun tables =>
  match action tables.state with
  | .ok value state => .ok value { tables with state }
  | .error error state => .error error { tables with state }

/-- The item of a list at an index. -/
def item (items : List α) (index : Nat) : Tabled α :=
  match items[index]? with
  | some item => return item
  | none => throw ⟨.noSuchSlot, .nowhere⟩

/-- The site of a slot. -/
def site (slot : Nat) : Tabled Pos := do
  match (← get).sites slot with
  | some pos => return pos
  | none => throw ⟨.noSuchSlot, .nowhere⟩

/-- A name bound to a fresh slot, whose site is then written down. -/
def declare (name : String) (kind : Kind) (pos : Pos) : Tabled Nat := do
  let slot ← lift (Check.declare name kind pos)
  modify fun tables =>
    { tables with sites := Function.update tables.sites slot (some pos) }
  return slot

/-- A name declared and made to agree with the value at an index. -/
def bindName
    (name : String)
    (kind : Kind)
    (pos site : Pos)
    (values : Option (List Nat))
    (index : Nat) :
    Tabled Nat := do
  let slot ← declare name kind pos
  match values with
  | none => return index + 1
  | some values =>
      let value ← item values index
      lift (Check.agree slot value site)
      return index + 1

/-- The names of one declaration; the index goes on to the next one. -/
def bindDecl
    (decl : Decl)
    (site : Pos)
    (values : Option (List Nat))
    (index : Nat) :
    Tabled Nat := do
  let kind ← lift (Check.declaredKind decl)
  decl.idents.foldlM
    (fun index name => bindName name kind decl.pos site values index)
    index

/-- The slots of an initializer, if there is one. -/
def initializers
    (pos : Pos)
    (decls : List Decl) :
    Option Expr → Tabled (Option (List Nat))
  | none => return none
  | some value => do
      let values ← lift (Check.slotsOf value)
      lift (Check.checkArity .declaration (Check.nameCount decls)
        values.length pos)
      return some values

/-- A declaration. -/
def declStmt
    (pos : Pos)
    (decls : List Decl)
    (value : Option Expr) :
    Tabled Unit := do
  let values ← initializers pos decls value
  discard <| decls.foldlM
    (fun index decl => bindDecl decl pos values index)
    0

/-- An assignment. -/
def assignStmt
    (pos : Pos)
    (names : List String)
    (value : Expr) :
    Tabled Unit := do
  let targets ← lift (names.mapM fun name => Check.lookup name pos)
  let values ← lift (Check.slotsOf value)
  lift (Check.checkArity .assignment targets.length values.length pos)
  (List.range targets.length).forM fun index => do
    let target ← item targets index
    let value ← item values index
    lift (Check.agree target value pos)

/-- A return; the promised kinds are read anew in each round. -/
def returnStmt (pos : Pos) (value : Expr) : Tabled Unit := do
  let values ← lift (Check.slotsOf value)
  let rets := (← get).state.rets
  lift (Check.checkArity .ret rets.length values.length pos)
  (List.range values.length).forM fun index => do
    let kind ← item (← get).state.rets index
    let expected ← lift (Check.onArena (Arena.new kind))
    let value ← item values index
    lift (Check.agree expected value pos)

/-- One statement. -/
def stmt : Stmt → Tabled Unit
  | .decl pos decls value => declStmt pos decls value
  | .assign pos names value => assignStmt pos names value
  | .ret pos value => returnStmt pos value
  | .bare pos => lift (Check.fail .bareStmt pos)

/-- The names of one group of parameters. -/
def param (decl : Decl) : Tabled Unit := do
  let kind ← lift (Check.declaredKind decl)
  decl.idents.forM fun name => discard (declare name kind decl.pos)

/-- Parameters, promised kinds and body of a function. -/
def function (function : Function) : Tabled Unit := do
  function.params.forM param
  let kinds ← lift (function.rets.mapM Check.convert)
  lift (Check.setRets kinds)
  function.body.forM stmt

/-- A visible name needs a concrete kind; if it has none its site is read. -/
def concrete (name : String) (slot : Nat) : Tabled Unit := do
  let kind ← lift (Check.onArena (Arena.get slot))
  if kind.isConcrete then
    return ()
  else
    let pos ← site slot
    lift (Check.fail (.unresolved name) pos)

/-- A concrete kind for every name that is still visible. -/
def resolved : Tabled Unit := do
  (← get).state.scope.visible.forM fun binding =>
    concrete binding.1 binding.2.slot

end Tabled

/-- The call with the tables apart. -/
def CheckCall.tabled : CheckCall → Tabled Unit
  | .declare name kind pos => discard (Tabled.declare name kind pos)
  | .lookup name pos => Tabled.lift (discard (Check.lookup name pos))
  | .declaredKind decl => Tabled.lift (discard (Check.declaredKind decl))
  | .slotOf value => Tabled.lift (discard (Check.slotOf value))
  | .slotsOf value => Tabled.lift (discard (Check.slotsOf value))
  | .setRets kinds => Tabled.lift (Check.setRets kinds)
  | .stmt statement => Tabled.stmt statement
  | .body statements => statements.forM Tabled.stmt
  | .function code => Tabled.function code
  | .resolved => Tabled.resolved

namespace Tables

/-- Nothing is declared and no site is written down. -/
def initial : Tables :=
  ⟨.initial, fun _ => none⟩

/-- The tables after a call, whether the call fails or not. -/
def after (tables : Tables) (call : CheckCall) : Tables :=
  finalState (call.tabled tables)

/-- The tables after a session. -/
def afterAll (calls : List CheckCall) : Tables :=
  calls.foldl after initial

/-- An outcome without the table of sites. -/
def forget :
    EStateM.Result TypeError Tables α →
      EStateM.Result TypeError CheckState α
  | .ok value tables => .ok value tables.state
  | .error error tables => .error error tables.state

end Tables

/-! ## The same outcomes -/

/-- The state with the sites that its bindings carry. -/
def CheckState.tables (state : CheckState) : Tables :=
  ⟨state, state.declPos?⟩

/-- Outcomes that differ in how the result is kept, with the sites in step. -/
inductive InStep (related : α → β → Prop) :
    EStateM.Result TypeError Tables α →
      EStateM.Result TypeError CheckState β → Prop where
  | ok
      {result : α} {value : β} {state : CheckState}
      (same : related result value) :
      InStep related (.ok result state.tables) (.ok value state)
  | error
      {error : TypeError} {state : CheckState} :
      InStep related (.error error state.tables) (.error error state)

namespace InStep

variable {state : CheckState}
variable {related : α → β → Prop}
variable {further : γ → δ → Prop}

theorem pure
    {result : α}
    {value : β}
    (same : related result value) :
    InStep related ((Pure.pure result : Tabled α) state.tables)
      ((Pure.pure value : Check β) state) :=
  .ok same

theorem bind
    {action : Tabled α}
    {plain : Check β}
    {next : α → Tabled γ}
    {plainNext : β → Check δ}
    (first : InStep related (action state.tables) (plain state))
    (second : ∀ result value later, related result value →
      plain state = .ok value later →
        InStep further (next result later.tables) (plainNext value later)) :
    InStep further ((action >>= next) state.tables)
      ((plain >>= plainNext) state) := by
  generalize ran : action state.tables = outcome at first
  generalize answered : plain state = answer at first
  cases first with
  | ok same =>
      rw [bind_eq_of_ok ran, bind_eq_of_ok answered]
      exact second _ _ _ same answered
  | error =>
      rw [bind_eq_of_error ran, bind_eq_of_error answered]
      exact InStep.error

/-- A step that has no counterpart gives its result at once. -/
theorem bind_left
    {action : Tabled α}
    {result : α}
    {next : α → Tabled γ}
    {outcome : EStateM.Result TypeError CheckState δ}
    (found : action state.tables = .ok result state.tables)
    (second : InStep further (next result state.tables) outcome) :
    InStep further ((action >>= next) state.tables) outcome := by
  rw [bind_eq_of_ok found]
  exact second

theorem discard
    {action : Tabled α}
    {plain : Check β}
    (inStep : InStep related (action state.tables) (plain state)) :
    InStep Eq (Functor.discard action state.tables)
      (Functor.discard plain state) := by
  rw [Functor.discard, Functor.discard, map_const, map_const,
    Function.comp_apply, Function.comp_apply, ← bind_pure_comp,
    ← bind_pure_comp]
  exact bind inStep fun _ _ _ _ _ => pure rfl

/-- A step that declares nothing leaves the table in step with the scope. -/
theorem lift
    {action : Check α}
    (nothing : DeclaresNothing action)
    (state : CheckState) :
    InStep Eq (Tabled.lift action state.tables) (action state) := by
  have same := nothing state
  have kept (later : CheckState) (scope : later.scope = state.scope) :
      (⟨later, state.declPos?⟩ : Tables) = later.tables := by
    rw [CheckState.tables]
    congr 1
    funext slot
    rw [CheckState.declPos?, CheckState.declPos?, scope]
  cases outcome : action state with
  | ok value later =>
      rw [outcome] at same
      have ran : Tabled.lift action state.tables =
          .ok value ⟨later, state.declPos?⟩ := by
        simp only [Tabled.lift, CheckState.tables, outcome]
      rw [ran, kept later same]
      exact InStep.ok rfl
  | error error later =>
      rw [outcome] at same
      have ran : Tabled.lift action state.tables =
          .error error ⟨later, state.declPos?⟩ := by
        simp only [Tabled.lift, CheckState.tables, outcome]
      rw [ran, kept later same]
      exact InStep.error

theorem item
    {items : List α}
    {index : Nat}
    {value : α}
    (found : items[index]? = some value)
    (tables : Tables) :
    Tabled.item items index tables = .ok value tables := by
  rw [Tabled.item, found]
  rfl

/-- Loops over items that correspond, with something kept in each round. -/
theorem forM
    {step : γ → Tabled PUnit}
    {plainStep : δ → Check PUnit}
    {items : List γ}
    {others : List δ}
    (holds : CheckState → Prop)
    (begins : holds state)
    (rounds : List.Forall₂
      (fun item other => ∀ state, holds state →
        InStep Eq (step item state.tables)
          (plainStep other state) ∧
        holds (finalState (plainStep other state)))
      items others) :
    InStep Eq (items.forM step state.tables)
      (others.forM plainStep state) := by
  induction rounds generalizing state with
  | nil =>
      exact pure rfl
  | cons first _ ih =>
      rcases first state begins with ⟨inStep, goesOn⟩
      refine bind inStep ?_
      intro _ _ later _ answered
      rw [answered] at goesOn
      exact ih goesOn

end InStep

/-- What holds of each item and its index holds along a loop that counts. -/
theorem forall₂_range
    {holds : Nat → α → Prop}
    {items : List α}
    (each : ∀ index item, items[index]? = some item → holds index item) :
    List.Forall₂ holds (List.range items.length) items := by
  rw [List.forall₂_iff_get]
  refine ⟨List.length_range, ?_⟩
  intro index _ inside
  rw [List.get_eq_getElem, List.get_eq_getElem, List.getElem_range]
  exact each index _ (List.getElem?_eq_getElem inside)

namespace Tabled

variable {state : CheckState}

/-! ## Declarations -/

/-- The site of a fresh slot is the one that its binding carries. -/
theorem inStep_declare
    (name : String)
    (kind : Kind)
    (pos : Pos)
    (state : CheckState) :
    InStep Eq (declare name kind pos state.tables)
      (Check.declare name kind pos state) := by
  have sites : Function.update state.declPos? state.arena.size (some pos) =
      (state.declared name kind pos).declPos? := by
    funext slot
    rw [CheckState.declPos?, CheckState.declared, Scope.toList_insert,
      List.find?_cons, Function.update_apply]
    by_cases same : slot = state.arena.size
    · simp [same]
    · simp [same, Ne.symm same, CheckState.declPos?]
  have ran : declare name kind pos state.tables =
      .ok state.arena.size ⟨state.declared name kind pos,
        Function.update state.declPos? state.arena.size (some pos)⟩ :=
    rfl
  rw [ran, sites]
  exact .ok rfl

/-- A check of two counts passes when they are equal, and changes nothing. -/
theorem eq_of_checkArity
    {place : Pairing}
    {expected found : Nat}
    {pos : Pos}
    {state later : CheckState}
    (passed : Check.checkArity place expected found pos state =
      .ok () later) :
    found = expected ∧ later = state := by
  rw [Check.checkArity] at passed
  split at passed
  · cases passed
    exact ⟨‹_›, rfl⟩
  · cases passed

/-- The values that are left when a number of them have been used. -/
def left : Option (List Nat) → Nat → List Nat
  | none, _ => []
  | some values, index => values.drop index

/-- The next index comes with the values that are left there. -/
def Left (values : Option (List Nat)) (next : Nat) (index : Nat)
    (remaining : List Nat) : Prop :=
  index = next ∧ remaining = left values next

theorem inStep_bindName
    {values : Option (List Nat)}
    {index : Nat}
    (enough : ∀ given ∈ values, index < given.length)
    (name : String)
    (kind : Kind)
    (pos site : Pos)
    (state : CheckState) :
    InStep (Left values (index + 1))
      (bindName name kind pos site values index state.tables)
      (Check.bindName name kind pos site (left values index) state) := by
  rw [bindName, Check.bindName]
  refine (inStep_declare name kind pos state).bind ?_
  rintro slot _ declared rfl -
  cases values with
  | none =>
      exact .pure ⟨rfl, rfl⟩
  | some values =>
      have inside := enough values rfl
      rw [left, List.drop_eq_getElem_cons inside]
      refine .bind_left (InStep.item (List.getElem?_eq_getElem inside) _) ?_
      refine (InStep.lift (Check.declaresNothing_agree _ _ _) _).bind ?_
      intro _ _ later _ _
      exact .pure ⟨rfl, rfl⟩

/-- A value for each name, counted on from an index. -/
theorem inStep_bindNames
    {values : Option (List Nat)}
    (idents : List String)
    (kind : Kind)
    (pos site : Pos)
    {index : Nat}
    (enough : ∀ given ∈ values, index + idents.length ≤ given.length)
    (state : CheckState) :
    InStep (Left values (index + idents.length))
      (idents.foldlM
        (fun index name => bindName name kind pos site values index)
        index state.tables)
      (idents.foldlM
        (fun values name => Check.bindName name kind pos site values)
        (left values index) state) := by
  induction idents generalizing index state with
  | nil =>
      exact .pure ⟨rfl, rfl⟩
  | cons name idents ih =>
      have enoughNow : ∀ given ∈ values, index < given.length :=
        fun given member => Nat.lt_of_lt_of_le
          (Nat.lt_add_of_pos_right (Nat.zero_lt_succ _)) (enough given member)
      rw [List.foldlM_cons, List.foldlM_cons, List.length_cons,
        Nat.add_comm idents.length, ← Nat.add_assoc]
      refine (inStep_bindName enoughNow name kind pos site state).bind ?_
      rintro _ _ later ⟨rfl, rfl⟩ -
      apply ih
      intro given member
      rw [Nat.add_assoc, Nat.add_comm 1]
      exact enough given member

theorem inStep_bindDecl
    {values : Option (List Nat)}
    {index : Nat}
    (decl : Decl)
    (enough : ∀ given ∈ values, index + decl.idents.length ≤ given.length)
    (site : Pos)
    (state : CheckState) :
    InStep (Left values (index + decl.idents.length))
      (bindDecl decl site values index state.tables)
      (Check.bindDecl decl site (left values index) state) := by
  rw [bindDecl, Check.bindDecl]
  refine (InStep.lift (Check.declaresNothing_declaredKind decl) state).bind ?_
  rintro kind _ later rfl -
  exact inStep_bindNames decl.idents kind decl.pos site enough later

theorem inStep_bindDecls
    {values : Option (List Nat)}
    (decls : List Decl)
    {index : Nat}
    (enough : ∀ given ∈ values,
      index + (decls.flatMap Decl.idents).length ≤ given.length)
    (site : Pos)
    (state : CheckState) :
    InStep (Left values (index + (decls.flatMap Decl.idents).length))
      (decls.foldlM (fun index decl => bindDecl decl site values index)
        index state.tables)
      (decls.foldlM (fun values decl => Check.bindDecl decl site values)
        (left values index) state) := by
  induction decls generalizing index state with
  | nil =>
      exact .pure ⟨rfl, rfl⟩
  | cons decl decls ih =>
      rw [List.flatMap_cons, List.length_append, ← Nat.add_assoc] at enough
      have enoughNow : ∀ given ∈ values,
          index + decl.idents.length ≤ given.length :=
        fun given member => Nat.le_of_add_right_le (enough given member)
      rw [List.foldlM_cons, List.foldlM_cons, List.flatMap_cons,
        List.length_append, ← Nat.add_assoc]
      refine (inStep_bindDecl decl enoughNow site state).bind ?_
      rintro _ _ later ⟨rfl, rfl⟩ -
      exact ih enough later

/-- An initializer has a value for each name. -/
theorem inStep_initializers
    (pos : Pos)
    (decls : List Decl)
    (value : Option Expr)
    (state : CheckState) :
    InStep
      (fun values remaining => remaining = left values 0 ∧
        ∀ given ∈ values,
          (decls.flatMap Decl.idents).length ≤ given.length)
      (initializers pos decls value state.tables)
      (Check.initializers pos decls value state) := by
  cases value with
  | none =>
      exact .pure ⟨rfl, nofun⟩
  | some value =>
      rw [initializers, Check.initializers]
      refine (InStep.lift (Check.declaresNothing_slotsOf value) state).bind ?_
      rintro values _ later rfl -
      refine (InStep.lift (Check.declaresNothing_checkArity _ _ _ _) _).bind ?_
      rintro _ _ checked - balanced
      have enough := (eq_of_checkArity balanced).1
      refine .pure ⟨rfl, ?_⟩
      rintro _ ⟨⟩
      exact Nat.le_of_eq ((nameCount_eq decls).symm.trans enough.symm)

theorem inStep_declStmt
    (pos : Pos)
    (decls : List Decl)
    (value : Option Expr)
    (state : CheckState) :
    InStep Eq (declStmt pos decls value state.tables)
      (Check.declStmt pos decls value state) := by
  rw [declStmt, Check.declStmt]
  refine (inStep_initializers pos decls value state).bind ?_
  rintro values _ later ⟨rfl, enough⟩ -
  refine InStep.discard (inStep_bindDecls decls ?_ pos later)
  intro given member
  rw [Nat.zero_add]
  exact enough given member

/-! ## Assignments and returns -/

theorem inStep_assignStmt
    (pos : Pos)
    (names : List String)
    (value : Expr)
    (state : CheckState) :
    InStep Eq (assignStmt pos names value state.tables)
      (Check.assignStmt pos names value state) := by
  rw [assignStmt, Check.assignStmt]
  refine (InStep.lift (.mapM (fun name =>
    Check.declaresNothing_lookup name pos) names) state).bind ?_
  rintro targets _ _ rfl -
  refine (InStep.lift (Check.declaresNothing_slotsOf value) _).bind ?_
  rintro values _ _ rfl -
  refine (InStep.lift (Check.declaresNothing_checkArity _ _ _ _) _).bind ?_
  rintro _ _ checked - passed
  rcases eq_of_checkArity passed with ⟨sameLength, -⟩
  -- With equal counts the pairs are as many as the rounds that are counted.
  have paired : targets.length = (targets.zip values).length := by
    rw [List.length_zip, sameLength, Nat.min_self]
  rw [paired]
  refine .forM (fun _ => True) trivial (forall₂_range ?_)
  rintro index ⟨target, slot⟩ found later -
  rcases List.getElem?_zip_eq_some.1 found with ⟨isTarget, isValue⟩
  refine ⟨?_, trivial⟩
  refine .bind_left (InStep.item isTarget _) ?_
  refine .bind_left (InStep.item isValue _) ?_
  exact .lift (Check.declaresNothing_agree target slot pos) later

/-- Nothing that is done to the arena changes what is promised. -/
theorem rets_onArena (action : ArenaM α) (state : CheckState) :
    (finalState (Check.onArena action state)).rets = state.rets := by
  rw [Check.onArena]
  cases action state.arena with
  | ok value arena =>
      rfl
  | error error arena =>
      rfl

theorem inStep_returnStmt
    (pos : Pos)
    (value : Expr)
    (state : CheckState) :
    InStep Eq (returnStmt pos value state.tables)
      (Check.returnStmt pos value state) := by
  rw [returnStmt, Check.returnStmt]
  refine (InStep.lift (Check.declaresNothing_slotsOf value) _).bind ?_
  rintro values _ before rfl -
  have got : (get : Check CheckState) before = .ok before before := rfl
  have gotTables : (get : Tabled Tables) before.tables =
      .ok before.tables before.tables := rfl
  rw [bind_eq_of_ok got, bind_eq_of_ok gotTables]
  refine (InStep.lift (Check.declaresNothing_checkArity _ _ _ _) _).bind ?_
  rintro _ _ checked - passed
  rcases eq_of_checkArity passed with ⟨sameLength, rfl⟩
  have sameLength : values.length = checked.rets.length := sameLength
  have paired : values.length = (checked.rets.zip values).length := by
    rw [List.length_zip, sameLength, Nat.min_self]
  rw [paired]
  -- No round changes what is promised, so reading it anew gives the same.
  refine .forM (fun later => later.rets = checked.rets) rfl (forall₂_range ?_)
  rintro index ⟨kind, slot⟩ found later sameRets
  rcases List.getElem?_zip_eq_some.1 found with ⟨isKind, isValue⟩
  rw [← sameRets] at isKind
  constructor
  · have gotLater : (get : Tabled Tables) later.tables =
        .ok later.tables later.tables := rfl
    refine .bind_left gotLater ?_
    refine .bind_left (InStep.item isKind _) ?_
    refine (InStep.lift (.onArena (Arena.new kind)) later).bind ?_
    rintro expected _ fresh rfl -
    refine .bind_left (InStep.item isValue _) ?_
    exact .lift (Check.declaresNothing_agree expected slot pos) fresh
  · show (finalState ((Check.onArena (Arena.new kind) >>= fun expected =>
      Check.agree expected slot pos) later)).rets = checked.rets
    rw [bind_eq_of_ok (Check.onArena_new kind later), Check.agree,
      rets_onArena]
    exact sameRets

/-! ## Functions -/

theorem inStep_stmt (statement : Stmt) (state : CheckState) :
    InStep Eq (stmt statement state.tables) (Check.stmt statement state) := by
  cases statement with
  | decl pos decls value =>
      exact inStep_declStmt pos decls value state
  | assign pos names value =>
      exact inStep_assignStmt pos names value state
  | ret pos value =>
      exact inStep_returnStmt pos value state
  | bare pos =>
      exact .lift (.fail _ _) state

/-- Loops without anything to keep from round to round. -/
theorem inStep_forM
    {step : γ → Tabled PUnit}
    {plainStep : γ → Check PUnit}
    (steps : ∀ item state,
      InStep Eq (step item state.tables) (plainStep item state))
    (items : List γ)
    (state : CheckState) :
    InStep Eq (items.forM step state.tables) (items.forM plainStep state) :=
  .forM (fun _ => True) trivial
    (List.forall₂_same.2 fun item _ later _ => ⟨steps item later, trivial⟩)

theorem inStep_param (decl : Decl) (state : CheckState) :
    InStep Eq (param decl state.tables) (Check.param decl state) := by
  rw [param, Check.param]
  refine (InStep.lift (Check.declaresNothing_declaredKind decl) state).bind ?_
  rintro kind _ later rfl -
  exact inStep_forM (fun name later =>
    (inStep_declare name kind decl.pos later).discard) decl.idents later

theorem inStep_function (code : Function) (state : CheckState) :
    InStep Eq (function code state.tables) (Check.function code state) := by
  rw [function, Check.function]
  refine (inStep_forM inStep_param code.params state).bind ?_
  rintro _ _ bound - -
  refine (InStep.lift (.mapM Check.declaresNothing_convert code.rets)
    bound).bind ?_
  rintro kinds _ converted rfl -
  refine (InStep.lift (Check.declaresNothing_setRets kinds)
    converted).bind ?_
  rintro _ _ promised - -
  exact inStep_forM inStep_stmt code.body promised

/-! ## Visible names -/

/-- In a coherent state the site of a bound slot is that of its binding. -/
theorem declPos?_eq_some_iff
    {slot : Nat}
    {pos : Pos}
    (coherent : state.Coherent) :
    state.declPos? slot = some pos ↔
      ∃ name, (name, ⟨slot, pos⟩) ∈ state.scope.toList := by
  have distinct := coherent.decreasing
  rw [CheckState.declPos?]
  generalize state.scope.toList = bindings at distinct
  induction bindings with
  | nil =>
      simp
  | cons binding bindings ih =>
      rcases binding with ⟨bound, own, site⟩
      rw [List.map_cons, List.pairwise_cons, List.forall_mem_map] at distinct
      rcases distinct with ⟨below, others⟩
      rw [List.find?_cons]
      by_cases same : own = slot
      · subst same
        have older : ∀ name, (name, ⟨own, pos⟩) ∉ bindings :=
          fun name member => Nat.lt_irrefl own (below _ member)
        simp [older, eq_comm]
      · simp [same, Ne.symm same, ih others]

/-- The site that is read for a visible name is the one of its binding. -/
theorem inStep_concrete
    {name : String}
    {declared : Declared}
    (coherent : state.Coherent)
    (member : (name, declared) ∈ state.scope.toList)
    (inside : Inside state declared.slot) :
    InStep Eq (concrete name declared.slot state.tables)
      (Check.concrete name declared state) := by
  rw [concrete, Check.concrete]
  refine (InStep.lift (.onArena _) state).bind ?_
  rintro kind _ later rfl answered
  rw [Check.onArena_get coherent inside] at answered
  cases answered
  split_ifs
  · exact .pure rfl
  · have found : site declared.slot state.tables =
        .ok declared.pos state.tables := by
      have isSite := (declPos?_eq_some_iff coherent).2 ⟨name, member⟩
      have gotTables : (get : Tabled Tables) state.tables =
          .ok state.tables state.tables := rfl
      rw [site, bind_eq_of_ok gotTables]
      simp only [CheckState.tables, isSite]
      rfl
    exact .bind_left found (.lift (.fail _ _) state)

theorem inStep_resolved (coherent : state.Coherent) :
    InStep Eq (resolved state.tables) (Check.resolved state) := by
  have gotTables : (get : Tabled Tables) state.tables =
      .ok state.tables state.tables := rfl
  rw [resolved, Check.resolved_eq, bind_eq_of_ok gotTables]
  refine .forM (fun later => later = state) rfl (List.forall₂_same.2 ?_)
  rintro ⟨name, declared⟩ visible later rfl
  have inside := Check.inside_of_visible coherent visible
  constructor
  · exact inStep_concrete coherent (Scope.mem_of_mem_visible visible) inside
  · rw [Check.concrete_eq coherent inside]
    split_ifs
    · rfl
    · rfl

end Tabled

/-! ## Sessions -/

variable {state : CheckState}

/-- In a coherent state a call does the same with its tables apart. -/
theorem CheckCall.inStep
    (coherent : state.Coherent)
    (call : CheckCall) :
    InStep Eq (call.tabled state.tables) (call.perform state) := by
  have dropped {α : Type} {action : Check α}
      (nothing : DeclaresNothing action) :
      InStep Eq (Tabled.lift (discard action) state.tables)
        ((discard action : Check PUnit) state) :=
    .lift nothing.discard state
  cases call with
  | declare name kind pos =>
      exact (Tabled.inStep_declare name kind pos state).discard
  | lookup name pos =>
      exact dropped (Check.declaresNothing_lookup name pos)
  | declaredKind decl =>
      exact dropped (Check.declaresNothing_declaredKind decl)
  | slotOf value =>
      exact dropped (Check.declaresNothing_slotOf value)
  | slotsOf value =>
      exact dropped (Check.declaresNothing_slotsOf value)
  | setRets kinds =>
      exact .lift (Check.declaresNothing_setRets kinds) state
  | stmt statement =>
      exact Tabled.inStep_stmt statement state
  | body statements =>
      exact Tabled.inStep_forM Tabled.inStep_stmt statements state
  | function code =>
      exact Tabled.inStep_function code state
  | resolved =>
      exact Tabled.inStep_resolved coherent

/-- A session with its tables apart goes through the states of the session. -/
theorem Tables.afterAll_eq (calls : List CheckCall) :
    Tables.afterAll calls = (CheckState.afterAll calls).tables := by
  have goesOn {state : CheckState} (coherent : state.Coherent) :
      calls.foldl Tables.after state.tables =
        (calls.foldl CheckState.after state).tables := by
    induction calls generalizing state with
    | nil =>
        rfl
    | cons call calls ih =>
        have step : state.tables.after call = (state.after call).tables := by
          have inStep := CheckCall.inStep coherent call
          rw [Tables.after, CheckState.after]
          generalize call.tabled state.tables = outcome at inStep
          generalize call.perform state = answer at inStep
          cases inStep with
          | ok _ =>
              rfl
          | error =>
              rfl
        rw [List.foldl_cons, List.foldl_cons, step]
        exact ih (coherent.after call)
  exact goesOn CheckState.coherent_initial

/--
The pieces of a state fit together.  The arrays of the arena are of equal
length, parents lie in range and never lead back, the slots of the scope lie
in range and increase with each binding, and the table has a site for exactly
the slots of the scope.
-/
structure Tables.Sound (tables : Tables) : Prop where
  sizes_eq :
    tables.state.arena.parents.size = tables.state.arena.kinds.size
  parent_inside : ∀ slot parent : Nat,
    tables.state.arena.parents[slot]? = some parent →
      parent < tables.state.arena.parents.size
  acyclic : ∀ slot, ¬ Relation.TransGen tables.state.arena.Under slot slot
  slot_inside : ∀ binding ∈ tables.state.scope.toList,
    binding.2.slot < tables.state.arena.kinds.size
  decreasing :
    (tables.state.scope.toList.map fun binding => binding.2.slot).Pairwise
      (· > ·)
  sites : ∀ slot pos, tables.sites slot = some pos ↔
    ∃ name, (name, ⟨slot, pos⟩) ∈ tables.state.scope.toList

theorem CheckState.Coherent.sound (coherent : state.Coherent) :
    state.tables.Sound where
  sizes_eq := coherent.tidy.size_eq
  parent_inside := by
    intro slot parent isParent
    have inside := coherent.tidy.forest.parent_inside slot parent isParent
    exact Nat.lt_of_lt_of_eq inside coherent.tidy.size_eq.symm
  acyclic := coherent.tidy.forest.acyclic
  slot_inside := coherent.inside
  decreasing := coherent.decreasing
  sites := fun _ _ => Tabled.declPos?_eq_some_iff coherent

/-- The classes of the faults that a check reports. -/
def reportedCategories : List String :=
  [ "ArityMismatch", "UndeclaredIdentifier", "TypeMismatch",
    "UnknownTypeName", "UnresolvedType", "UnsupportedConstruct" ]

theorem category_mem_reportedCategories
    {fault : TypeFault}
    (other : fault ≠ .noSuchSlot) :
    fault.category ∈ reportedCategories := by
  cases fault with
  | noSuchSlot =>
      exact (other rfl).elim
  | _ =>
      simp [TypeFault.category, reportedCategories]

/--
After any session the pieces of the state fit together.  The next call has the
outcome of the call on the state alone, although it reads the table of sites
and lists at counted indices, and where it fails the fault is one that a check
reports: no slot, index or site is ever missing.
-/
theorem session_is_sound (calls : List CheckCall) :
    (Tables.afterAll calls).Sound ∧
      (Tables.afterAll calls).state = CheckState.afterAll calls ∧
        (Tables.afterAll calls).sites = (CheckState.afterAll calls).declPos? ∧
          ∀ call : CheckCall,
            Tables.forget (call.tabled (Tables.afterAll calls)) =
                call.perform (CheckState.afterAll calls) ∧
              ∀ error later,
                call.tabled (Tables.afterAll calls) = .error error later →
                  error.fault.category ∈ reportedCategories := by
  have coherent := CheckState.coherent_afterAll calls
  rw [Tables.afterAll_eq]
  refine ⟨coherent.sound, rfl, rfl, fun call => ?_⟩
  have keeps := CheckCall.keeps_perform coherent call
  have inStep := CheckCall.inStep coherent call
  generalize call.tabled (CheckState.afterAll calls).tables = outcome at inStep
  generalize call.perform (CheckState.afterAll calls) = answer at inStep keeps
  cases inStep with
  | ok same =>
      exact ⟨congrArg₂ _ same rfl, nofun⟩
  | error =>
      refine ⟨rfl, ?_⟩
      rintro error later ⟨⟩
      cases keeps with
      | error _ _ allowed =>
          exact category_mem_reportedCategories allowed

end Sprig
