import Sprig.Proofs.Typing.Growth

/-!
# Coherent states

The arena, the scope and the slots that go from one step of a check to the
next fit together.  The arena is tidy, every bound slot lies in it, and a
newer binding has a greater slot, so that no two bindings share one.

`Coherent` says this of a state.  Every step of a check keeps it, for trees of
any shape and also where the step fails half way, and no step looks for a slot
outside the arena.
-/

namespace Sprig

/-- Bound slots lie in a tidy arena, the slot of a newer binding above. -/
structure CheckState.Coherent (state : CheckState) : Prop where
  tidy : state.arena.Tidy
  inside : ∀ binding ∈ state.scope.toList, binding.2.slot < state.arena.size
  decreasing : (state.scope.toList.map fun binding => binding.2.slot).Pairwise
    (· > ·)

/-- States are coherent, and no error comes from a slot outside the arena. -/
def coherence : Demand where
  states := CheckState.Coherent
  errors := fun error => error.fault ≠ .noSuchSlot

theorem coherence_errors
    {fault : TypeFault}
    {pos : Pos}
    (other : fault ≠ .noSuchSlot) :
    coherence.errors ⟨fault, pos⟩ :=
  other

/-- A slot lies in the arena. -/
def Inside (state : CheckState) (slot : Nat) : Prop :=
  slot < state.arena.size

theorem lasts_inside : Lasts Inside :=
  fun _ _ adds _ inside => Nat.lt_of_lt_of_le inside adds.size_le

namespace CheckState

variable {state : CheckState}

/-- The state with a name bound to one more slot. -/
def declared
    (state : CheckState)
    (name : String)
    (kind : Kind)
    (pos : Pos) :
    CheckState :=
  { state with
    arena := state.arena.push kind
    scope := state.scope.insert name ⟨state.arena.size, pos⟩ }

theorem coherent_initial : initial.Coherent where
  tidy := Arena.tidy_empty
  inside := List.forall_mem_nil _
  decreasing := .nil

namespace Coherent

/-- The scope goes on to fit an arena that has grown. -/
theorem withArena
    {arena : Arena}
    (coherent : state.Coherent)
    (tidy : arena.Tidy)
    (size_le : state.arena.size ≤ arena.size) :
    Coherent { state with arena } where
  tidy := tidy
  inside := fun binding member =>
    Nat.lt_of_lt_of_le (coherent.inside binding member) size_le
  decreasing := coherent.decreasing

theorem inside_of_binding
    {slot : Nat}
    (coherent : state.Coherent)
    (bound : ∃ binding ∈ state.scope.toList, binding.2.slot = slot) :
    Inside state slot := by
  rcases bound with ⟨binding, member, rfl⟩
  exact coherent.inside binding member

theorem push
    (coherent : state.Coherent)
    (kind : Kind) :
    Coherent { state with arena := state.arena.push kind } :=
  coherent.withArena (coherent.tidy.push kind)
    (coherent.tidy.learns_push kind).size_le

/-- The newest slot may be bound. -/
theorem declared
    (coherent : state.Coherent)
    (name : String)
    (kind : Kind)
    (pos : Pos) :
    (state.declared name kind pos).Coherent where
  tidy := coherent.tidy.push kind
  inside := by
    refine List.forall_mem_cons.2 ⟨?_, (coherent.push kind).inside⟩
    show state.arena.size < (state.arena.push kind).size
    rw [Arena.size_push]
    exact Nat.lt_succ_self _
  decreasing := by
    refine .cons ?_ coherent.decreasing
    rw [List.forall_mem_map]
    exact coherent.inside

end Coherent

/-- A bound slot is new. -/
theorem adds_declared
    (tidy : state.arena.Tidy)
    (name : String)
    (kind : Kind)
    (pos : Pos) :
    state.Adds (state.declared name kind pos) where
  learns := tidy.learns_push kind
  scope := ⟨[(name, ⟨state.arena.size, pos⟩)], rfl,
    List.forall_mem_singleton.2 (Nat.le_refl _)⟩

end CheckState

namespace Check

variable {state : CheckState}

theorem onArena_new (kind : Kind) (state : CheckState) :
    onArena (Arena.new kind) state =
      .ok state.arena.size { state with arena := state.arena.push kind } :=
  rfl

theorem declare_eq
    (name : String)
    (kind : Kind)
    (pos : Pos)
    (state : CheckState) :
    declare name kind pos state =
      .ok state.arena.size (state.declared name kind pos) :=
  rfl

theorem bindName_nil
    (name : String)
    (kind : Kind)
    (pos site : Pos)
    (state : CheckState) :
    bindName name kind pos site [] state =
      .ok [] (state.declared name kind pos) :=
  rfl

theorem bindName_cons
    (name : String)
    (kind : Kind)
    (pos site : Pos)
    (value : Nat)
    (others : List Nat)
    (state : CheckState) :
    bindName name kind pos site (value :: others) state =
      (agree state.arena.size value site >>= fun _ => pure others)
        (state.declared name kind pos) :=
  rfl

/-! ## Steps on slots -/

theorem keeps_new
    (coherent : state.Coherent)
    (kind : Kind) :
    Keeps coherence state Inside (onArena (Arena.new kind) state) := by
  rw [onArena_new]
  refine .ok (coherent.push kind)
    (.of_learns (coherent.tidy.learns_push kind)) ?_
  rw [Inside, Arena.size_push]
  exact Nat.lt_succ_self _

theorem keeps_declare
    (coherent : state.Coherent)
    (name : String)
    (kind : Kind)
    (pos : Pos) :
    Keeps coherence state Inside (declare name kind pos state) := by
  rw [declare_eq]
  have coherentAfter := coherent.declared name kind pos
  exact .ok coherentAfter
    (CheckState.adds_declared coherent.tidy name kind pos)
    (coherentAfter.inside _ (.head _))

theorem keeps_lookup
    (coherent : state.Coherent)
    (name : String)
    (pos : Pos) :
    Keeps coherence state Inside (lookup name pos state) := by
  refine (Keeps.lookup coherent ?_).weaken ?_
  · exact nofun
  · intro after slot coherent _ bound
    exact coherent.inside_of_binding bound

theorem keeps_agree
    {first second : Nat}
    (coherent : state.Coherent)
    (firstInside : Inside state first)
    (secondInside : Inside state second)
    (site : Pos) :
    Keeps coherence state (fun _ _ => True) (agree first second site state) := by
  rw [agree, onArena]
  have agreement :=
    coherent.tidy.agreement firstInside secondInside (some site)
  generalize Arena.unify first second (some site) state.arena = outcome
    at agreement
  cases agreement with
  | agreed tidy size_eq learns =>
      exact .ok (coherent.withArena tidy (Nat.le_of_eq size_eq.symm))
        (.of_learns learns) trivial
  | refused =>
      exact .error coherent (.refl state) nofun

/-! ## Values -/

theorem keeps_slotOf
    (coherent : state.Coherent)
    (value : Expr) :
    Keeps coherence state Inside (slotOf value state) := by
  cases value with
  | intLit pos text =>
      exact keeps_new coherent .int
  | var pos name =>
      exact keeps_lookup coherent name pos
  | tuple pos elements =>
      exact .fail coherent nofun
  | bare pos =>
      exact .fail coherent nofun

theorem keeps_slotsOf
    (coherent : state.Coherent)
    (value : Expr) :
    Keeps coherence state
      (fun after slots => ∀ slot ∈ slots, Inside after slot)
      (slotsOf value state) :=
  .mapM lasts_inside coherent fun component _ _ coherent _ =>
    keeps_slotOf coherent component

/-! ## Declarations -/

theorem keeps_bindName
    {values : List Nat}
    (coherent : state.Coherent)
    (inside : ∀ value ∈ values, Inside state value)
    (name : String)
    (kind : Kind)
    (pos site : Pos) :
    Keeps coherence state
      (fun after left => ∀ value ∈ left, Inside after value)
      (bindName name kind pos site values state) := by
  rw [bindName]
  refine (keeps_declare coherent name kind pos).bind ?_
  intro slot declared coherent adds slotInside
  cases values with
  | nil =>
      exact .pure coherent (List.forall_mem_nil _)
  | cons value others =>
      have inside := lasts_inside.all adds inside
      rcases List.forall_mem_cons.1 inside with ⟨valueInside, othersInside⟩
      refine (keeps_agree coherent slotInside valueInside site).bind ?_
      intro _ later coherent adds _
      exact .pure coherent (lasts_inside.all adds othersInside)

theorem keeps_bindDecl
    {values : List Nat}
    (coherent : state.Coherent)
    (inside : ∀ value ∈ values, Inside state value)
    (decl : Decl)
    (site : Pos) :
    Keeps coherence state
      (fun after left => ∀ value ∈ left, Inside after value)
      (bindDecl decl site values state) := by
  rw [bindDecl]
  refine (Keeps.declaredKind decl coherent
    fun _ _ => coherence_errors nofun).bind ?_
  intro kind later coherent adds _
  refine .foldlM coherent (lasts_inside.all adds inside) ?_
  intro name _ values later coherent _ inside
  exact keeps_bindName coherent inside name kind decl.pos site

theorem keeps_declStmt
    (coherent : state.Coherent)
    (pos : Pos)
    (decls : List Decl)
    (value : Option Expr) :
    Keeps coherence state (fun _ _ => True)
      (declStmt pos decls value state) := by
  rw [declStmt]
  refine (Keeps.initializers lasts_inside coherent
    (fun _ _ _ => coherence_errors nofun)
    (fun initial _ _ coherent => keeps_slotsOf coherent initial)).bind ?_
  rintro values later coherent _ ⟨inside, -⟩
  have bound : Keeps coherence later
      (fun after left => ∀ value ∈ left, Inside after value)
      (decls.foldlM (fun values decl => bindDecl decl pos values)
        values later) := by
    refine .foldlM coherent inside ?_
    intro decl _ values later coherent _ inside
    exact keeps_bindDecl coherent inside decl pos
  exact bound.discard

/-! ## Assignments and returns -/

theorem keeps_assignStmt
    (coherent : state.Coherent)
    (pos : Pos)
    (names : List String)
    (value : Expr) :
    Keeps coherence state (fun _ _ => True)
      (assignStmt pos names value state) :=
  .assignStmt lasts_inside coherent
    (fun _ _ _ => coherence_errors nofun)
    (fun name _ coherent => keeps_lookup coherent name pos)
    (fun _ coherent => keeps_slotsOf coherent value)
    (fun _ _ _ coherent first second => keeps_agree coherent first second pos)

theorem keeps_returnStmt
    (coherent : state.Coherent)
    (pos : Pos)
    (value : Expr) :
    Keeps coherence state (fun _ _ => True) (returnStmt pos value state) :=
  .returnStmt lasts_inside coherent
    (fun _ _ _ => coherence_errors nofun)
    (fun _ coherent => keeps_slotsOf coherent value)
    (fun _ _ kind _ _ coherent => keeps_new coherent kind)
    (fun _ _ _ coherent first second => keeps_agree coherent first second pos)

/-! ## Functions -/

theorem keeps_stmt
    (coherent : state.Coherent)
    (statement : Stmt) :
    Keeps coherence state (fun _ _ => True) (stmt statement state) := by
  cases statement with
  | decl pos decls value =>
      exact keeps_declStmt coherent pos decls value
  | assign pos names value =>
      exact keeps_assignStmt coherent pos names value
  | ret pos value =>
      exact keeps_returnStmt coherent pos value
  | bare pos =>
      exact .fail coherent nofun

theorem keeps_body
    (coherent : state.Coherent)
    (body : List Stmt) :
    Keeps coherence state (fun _ _ => True)
      ((body.forM stmt : Check Unit) state) :=
  .forM coherent fun statement _ _ coherent _ => keeps_stmt coherent statement

theorem keeps_param
    (coherent : state.Coherent)
    (decl : Decl) :
    Keeps coherence state (fun _ _ => True) (param decl state) := by
  rw [param]
  refine (Keeps.declaredKind decl coherent
    fun _ _ => coherence_errors nofun).bind ?_
  intro kind _ coherent _ _
  refine .forM coherent ?_
  intro name _ _ coherent _
  exact (keeps_declare coherent name kind decl.pos).discard

theorem keeps_setRets
    (coherent : state.Coherent)
    (kinds : List Kind) :
    Keeps coherence state (fun _ _ => True) (setRets kinds state) := by
  have kept : CheckState.Coherent { state with rets := kinds } :=
    ⟨coherent.tidy, coherent.inside, coherent.decreasing⟩
  exact .ok kept ⟨.refl _, [], rfl, List.forall_mem_nil _⟩ trivial

theorem keeps_function
    (coherent : state.Coherent)
    (code : Function) :
    Keeps coherence state (fun _ _ => True) (function code state) :=
  .function coherent
    (fun decl _ _ coherent => keeps_param coherent decl)
    (fun _ _ => coherence_errors nofun)
    (fun kinds _ _ coherent => keeps_setRets coherent kinds)
    (fun statement _ _ coherent => keeps_stmt coherent statement)

/-! ## Visible names -/

/-- Reading the kind of a slot of the arena changes nothing. -/
theorem onArena_get
    {slot : Nat}
    (coherent : state.Coherent)
    (inside : Inside state slot) :
    onArena (Arena.get slot) state =
      .ok (state.arena.kindOf slot) state := by
  rw [onArena, coherent.tidy.get_eq inside]

theorem inside_of_visible
    {binding : String × Declared}
    (coherent : state.Coherent)
    (visible : binding ∈ state.scope.visible) :
    Inside state binding.2.slot :=
  coherent.inside binding (Scope.mem_of_mem_visible visible)

/-- What is asked of one visible name. -/
def concrete (name : String) (declared : Declared) : Check Unit := do
  let kind ← onArena (Arena.get declared.slot)
  if kind.isConcrete then
    return ()
  else
    fail (.unresolved name) declared.pos

theorem resolved_eq (state : CheckState) :
    resolved state =
      state.scope.visible.forM (fun binding => concrete binding.1 binding.2)
        state :=
  rfl

/-- A name is passed, or is the fault, and nothing changes. -/
theorem concrete_eq
    {declared : Declared}
    (coherent : state.Coherent)
    (inside : Inside state declared.slot)
    (name : String) :
    concrete name declared state =
      if (state.arena.kindOf declared.slot).isConcrete then
        .ok () state
      else
        .error ⟨.unresolved name, declared.pos⟩ state := by
  rw [concrete, bind_eq_of_ok (onArena_get coherent inside)]
  split_ifs
  · rfl
  · rfl

theorem keeps_resolved (coherent : state.Coherent) :
    Keeps coherence state (fun _ _ => True) (resolved state) := by
  rw [resolved_eq]
  refine .forM coherent ?_
  intro binding visible later coherentLater adds
  have inside := lasts_inside adds (inside_of_visible coherent visible)
  rw [concrete_eq coherentLater inside]
  split_ifs
  · exact .ok coherentLater (.refl later) trivial
  · exact .error coherentLater (.refl later) nofun

end Check

end Sprig
