import Sprig.Proofs.Typing.Charge
import Sprig.Proofs.Typing.Session

/-!
# Names left open

A check that allows names without a kind is the first part of one that does
not: the second goes on from the state in which the first ends.  It changes
nothing there, and fails if there is an open name, which is a visible name
whose slot still has no concrete kind.

The name to blame is found in the tree.  The declarations of a tree, in order,
are the bindings of the final scope, oldest first, and each binding carries
the position of the declaration that made it.  A name is visible in its newest
binding only, so the open name that is blamed is the one whose newest
declaration comes first.
-/

namespace Sprig

variable {α β : Type}

/-! ## Declarations of a tree -/

/-- The names of one group, each with the position of the group. -/
def Decl.sites (decl : Decl) : List (String × Pos) :=
  decl.idents.map fun name => (name, decl.pos)

/-- The names that a statement declares, in order. -/
def Stmt.sites : Stmt → List (String × Pos)
  | .decl _ decls _ => decls.flatMap Decl.sites
  | _ => []

/-- The names that a function declares, parameters first. -/
def Function.sites (code : Function) : List (String × Pos) :=
  code.params.flatMap Decl.sites ++ code.body.flatMap Stmt.sites

/-- The names that a scope binds, oldest first. -/
def Scope.sites (scope : Scope Declared) : List (String × Pos) :=
  scope.toList.reverse.map fun binding => (binding.1, binding.2.pos)

/-- An action that goes well adds the listed declarations to the scope. -/
def Declares (sites : List (String × Pos)) (action : Check α) : Prop :=
  ∀ state value after, action state = .ok value after →
    after.scope.sites = state.scope.sites ++ sites

namespace Declares

variable {first second : List (String × Pos)}
variable {sites : β → List (String × Pos)}
variable {action : Check α}

theorem of_nothing (nothing : DeclaresNothing action) :
    Declares [] action := by
  intro state value after succeeds
  have same := nothing state
  rw [succeeds] at same
  rw [← same, List.append_nil]
  rfl

theorem bind
    {next : α → Check β}
    (before : Declares first action)
    (goesOn : ∀ value, Declares second (next value)) :
    Declares (first ++ second) (action >>= next) := by
  intro state result after succeeds
  rcases exists_of_bind_eq_ok succeeds with ⟨value, middle, ended, succeeds⟩
  rw [goesOn value middle result after succeeds,
    before state value middle ended, List.append_assoc]

theorem discard (declares : Declares first action) :
    Declares first (Functor.discard action) := by
  rw [Functor.discard, map_const, Function.comp_apply, ← bind_pure_comp]
  simpa using declares.bind fun _ => of_nothing (.pure _)

theorem forM
    {step : β → Check PUnit}
    (steps : ∀ item, Declares (sites item) (step item))
    (items : List β) :
    Declares (items.flatMap sites) (items.forM step) := by
  induction items with
  | nil =>
      exact of_nothing (.pure _)
  | cons item items ih =>
      exact (steps item).bind fun _ => ih

theorem foldlM
    {step : α → β → Check α}
    (steps : ∀ item value, Declares (sites item) (step value item))
    (items : List β)
    (value : α) :
    Declares (items.flatMap sites) (items.foldlM step value) := by
  induction items generalizing value with
  | nil =>
      exact of_nothing (.pure _)
  | cons item items ih =>
      rw [List.foldlM_cons]
      exact (steps item value).bind ih

end Declares

namespace Check

theorem declares_declare (name : String) (kind : Kind) (pos : Pos) :
    Declares [(name, pos)] (declare name kind pos) := by
  intro state slot after succeeds
  rw [declare_eq] at succeeds
  cases succeeds
  simp [CheckState.declared, Scope.sites]

theorem declares_bindName
    (name : String)
    (kind : Kind)
    (pos site : Pos)
    (values : List Nat) :
    Declares [(name, pos)] (bindName name kind pos site values) := by
  refine (declares_declare name kind pos).bind fun slot => .of_nothing ?_
  cases values with
  | nil =>
      exact .pure _
  | cons value others =>
      exact (declaresNothing_agree slot value site).bind fun _ => .pure _

theorem declares_bindDecl (decl : Decl) (site : Pos) (values : List Nat) :
    Declares decl.sites (bindDecl decl site values) := by
  rw [Decl.sites, List.map_eq_flatMap]
  refine .bind (.of_nothing (declaresNothing_declaredKind decl)) fun kind => ?_
  exact .foldlM
    (fun name values => declares_bindName name kind decl.pos site values)
    decl.idents values

/-- A statement declares what its tree says. -/
theorem declares_stmt (statement : Stmt) :
    Declares statement.sites (stmt statement) := by
  cases statement with
  | decl pos decls value =>
      refine .bind
        (.of_nothing (declaresNothing_initializers pos decls value)) ?_
      intro values
      exact (Declares.foldlM
        (fun decl values => declares_bindDecl decl pos values)
        decls values).discard
  | assign pos names value =>
      exact .of_nothing (declaresNothing_assignStmt pos names value)
  | ret pos value =>
      exact .of_nothing (declaresNothing_returnStmt pos value)
  | bare pos =>
      exact .of_nothing (.fail _ _)

theorem declares_param (decl : Decl) :
    Declares decl.sites (param decl) := by
  rw [Decl.sites, List.map_eq_flatMap]
  refine .bind (.of_nothing (declaresNothing_declaredKind decl)) fun kind => ?_
  exact .forM (fun name => (declares_declare name kind decl.pos).discard)
    decl.idents

/-- So does a function, its parameters in front. -/
theorem declares_function (code : Function) :
    Declares code.sites (function code) := by
  refine (Declares.forM declares_param code.params).bind fun _ => ?_
  refine .bind (.of_nothing (.mapM declaresNothing_convert code.rets)) ?_
  intro kinds
  refine .bind (.of_nothing (declaresNothing_setRets kinds)) fun _ => ?_
  exact .forM declares_stmt code.body

end Check

/-! ## The search for an open name -/

/-- Whether a binding still has no concrete kind. -/
def CheckState.isOpen
    (state : CheckState)
    (binding : String × Declared) :
    Bool :=
  !(state.arena.kindOf binding.2.slot).isConcrete

@[simp]
theorem CheckState.isOpen_iff
    {state : CheckState}
    {binding : String × Declared} :
    state.isOpen binding = true ↔
      state.arena.kindOf binding.2.slot = .unknown := by
  simp [isOpen]

namespace Check

variable {state : CheckState}

/-- The first open name of a list is at fault; nothing changes. -/
theorem forM_concrete_eq
    (coherent : state.Coherent)
    (bindings : List (String × Declared))
    (inside : ∀ binding ∈ bindings, Inside state binding.2.slot) :
    bindings.forM (fun binding => concrete binding.1 binding.2) state =
      match bindings.find? state.isOpen with
      | none => .ok () state
      | some (name, declared) =>
          .error ⟨.unresolved name, declared.pos⟩ state := by
  induction bindings with
  | nil =>
      rfl
  | cons binding bindings ih =>
      rcases List.forall_mem_cons.1 inside with ⟨insideHere, insideOthers⟩
      have here := concrete_eq coherent insideHere binding.1
      cases known : (state.arena.kindOf binding.2.slot).isConcrete with
      | true =>
          rw [if_pos known] at here
          rw [List.find?_cons_of_neg (by simp [CheckState.isOpen, known])]
          exact (bind_eq_of_ok here _).trans (ih insideOthers)
      | false =>
          rw [known, if_neg Bool.false_ne_true] at here
          rw [List.find?_cons_of_pos (by simp [CheckState.isOpen, known])]
          exact bind_eq_of_error here _

theorem resolved_eq_find? (coherent : state.Coherent) :
    resolved state =
      match state.scope.visible.find? state.isOpen with
      | none => .ok () state
      | some (name, declared) =>
          .error ⟨.unresolved name, declared.pos⟩ state := by
  rw [resolved_eq]
  exact forM_concrete_eq coherent _ fun _ => inside_of_visible coherent

/-- Open names are no matter of the statements. -/
theorem ne_unresolved_of_function
    {code : Function}
    {error : TypeError}
    {after : CheckState}
    (fails : function code .initial = .error error after)
    (name : String) :
    error.fault ≠ .unresolved name := by
  rcases error_of_function fails with head | ⟨index, statement, stops⟩
  · cases head
    exact nofun
  · cases stops.charges with
    | component given inside charges =>
        cases charges
        all_goals exact nofun
    | _ =>
        exact nofun

end Check

namespace Checked

/--
The binding at an index, oldest first, is the newest of its name and still has
no kind.
-/
structure LeftOpen
    (checked : Checked)
    (index : Nat)
    (name : String)
    (declared : Declared) : Prop where
  newest : Newest Prod.fst checked.scope.toList.reverse index (name, declared)
  unknown :
    Arena.get declared.slot checked.arena = .ok .unknown checked.arena

/-- Of all the names left open this is the one with the least index. -/
structure FirstOpen
    (checked : Checked)
    (index : Nat)
    (name : String)
    (declared : Declared) : Prop
    extends checked.LeftOpen index name declared where
  first : ∀ other name declared,
    checked.LeftOpen other name declared → index ≤ other

variable {checked : Checked}
variable {index : Nat}
variable {name : String}
variable {declared : Declared}
variable {state : CheckState}

/-- Only one name is the first. -/
theorem FirstOpen.unique
    {otherIndex : Nat}
    {otherName : String}
    {otherDeclared : Declared}
    (firstOpen : checked.FirstOpen index name declared)
    (other : checked.FirstOpen otherIndex otherName otherDeclared) :
    name = otherName ∧ declared = otherDeclared := by
  have same : index = otherIndex := Nat.le_antisymm
    (firstOpen.first _ _ _ other.toLeftOpen)
    (other.first _ _ _ firstOpen.toLeftOpen)
  have listed := other.newest.listed
  rw [← same, firstOpen.newest.listed, Option.some.injEq] at listed
  exact Prod.mk.inj listed

/-- The index of an open name is also that of its declaration. -/
theorem LeftOpen.site
    (leftOpen : checked.LeftOpen index name declared) :
    checked.scope.sites[index]? = some (name, declared.pos) := by
  rw [Scope.sites, List.getElem?_map, leftOpen.newest.listed]
  rfl

theorem leftOpen_iff
    (coherent : state.Coherent)
    (code : Function) :
    LeftOpen ⟨code, state.scope, state.arena⟩ index name declared ↔
      Newest Prod.fst state.scope.toList.reverse index (name, declared) ∧
        state.isOpen (name, declared) = true := by
  have got (newest : Newest Prod.fst state.scope.toList.reverse index
        (name, declared)) :
      Arena.get declared.slot state.arena =
        .ok (state.arena.kindOf declared.slot) state.arena := by
    have member := List.mem_reverse.1 (List.mem_of_getElem? newest.listed)
    exact coherent.tidy.get_eq (coherent.inside _ member)
  constructor
  · rintro ⟨newest, unknown⟩
    rw [got newest, EStateM.Result.ok.injEq] at unknown
    exact ⟨newest, CheckState.isOpen_iff.2 unknown.1⟩
  · rintro ⟨newest, isOpen⟩
    refine ⟨newest, ?_⟩
    rw [got newest, CheckState.isOpen_iff.1 isOpen]

end Checked

/-! ## The two checks of a function -/

namespace Function

/--
How a check that allows open names and one that does not end.  Either both
find the same fault, which is no open name, or both leave none open, or only
the second fails, on account of the first name left open.
-/
inductive Outcomes (code : Function) :
    (allowed strict : Except TypeError Checked) → Prop where
  | refused
      {error : TypeError}
      (other : ∀ name, error.fault ≠ .unresolved name) :
      Outcomes code (.error error) (.error error)
  | closed
      {checked : Checked}
      (sites : checked.scope.sites = code.sites)
      (noneOpen : ∀ index name declared,
        ¬ checked.LeftOpen index name declared) :
      Outcomes code (.ok checked) (.ok checked)
  | blamed
      {checked : Checked} {index : Nat} {name : String} {declared : Declared}
      (sites : checked.scope.sites = code.sites)
      (firstOpen : checked.FirstOpen index name declared) :
      Outcomes code (.ok checked)
        (.error ⟨.unresolved name, declared.pos⟩)

theorem outcomes (code : Function) :
    code.Outcomes (code.check true) (code.check false) := by
  have keeps := Check.keeps_function CheckState.coherent_initial code
  rw [check, check, Check.program, Check.program]
  cases outcome : Check.function code .initial with
  | error error after =>
      rw [bind_eq_of_error outcome, bind_eq_of_error outcome]
      exact .refused (Check.ne_unresolved_of_function outcome)
  | ok value state =>
      rw [outcome] at keeps
      have coherent : state.Coherent := keeps.finalState.1
      have sites := Check.declares_function code _ _ _ outcome
      have search := findsNewest_unshadowed Prod.fst state.isOpen
        state.scope.toList.reverse
      rw [bind_eq_of_ok outcome, bind_eq_of_ok outcome, if_pos rfl,
        if_neg Bool.false_ne_true, Check.resolved_eq_find? coherent,
        Scope.visible_eq_unshadowed]
      generalize (unshadowed _ _).find? state.isOpen = result at search
      cases search with
      | absent fails =>
          apply Outcomes.closed sites
          intro index name declared leftOpen
          rcases (Checked.leftOpen_iff coherent code).1 leftOpen with
            ⟨newest, isOpen⟩
          rw [fails index _ newest] at isOpen
          cases isOpen
      | found newest isOpen least =>
          have leftOpen :=
            (Checked.leftOpen_iff coherent code).2 ⟨newest, isOpen⟩
          apply Outcomes.blamed sites ⟨leftOpen, ?_⟩
          intro other name declared another
          rcases (Checked.leftOpen_iff coherent code).1 another with
            ⟨newest, isOpen⟩
          exact least other _ newest isOpen

/--
A check that does not allow open names fails on account of one exactly if the
check that allows them goes well and leaves some name open.  The name that is
blamed is the one whose newest declaration comes first, and the position is
that of this declaration in the tree.  In every other case the two checks end
alike: in the same error, or in the same scope and arena.
-/
theorem check_blames_first_open (code : Function) :
    (∀ name pos,
      code.check false = .error ⟨.unresolved name, pos⟩ ↔
        ∃ checked index slot,
          code.check true = .ok checked ∧
            checked.FirstOpen index name ⟨slot, pos⟩ ∧
            code.sites[index]? = some (name, pos)) ∧
      ((∃ name pos, code.check false = .error ⟨.unresolved name, pos⟩) ↔
        ∃ checked index name declared,
          code.check true = .ok checked ∧
            checked.LeftOpen index name declared) ∧
      (∀ checked, code.check true = .ok checked →
        checked.scope.sites = code.sites) ∧
      ((∀ name pos, code.check false ≠ .error ⟨.unresolved name, pos⟩) →
        code.check false = code.check true) := by
  have outcomes := code.outcomes
  generalize code.check true = allowed at outcomes
  generalize code.check false = strict at outcomes
  cases outcomes with
  | @refused error other =>
      have notBlamed (name : String) (pos : Pos) :
          error ≠ ⟨.unresolved name, pos⟩ := by
        rintro rfl
        exact other name rfl
      simp [notBlamed]
  | closed sites noneOpen =>
      have noFirst (index : Nat) (name : String) (declared : Declared) :
          ¬ Checked.FirstOpen _ index name declared :=
        fun firstOpen => noneOpen _ _ _ firstOpen.toLeftOpen
      simp [sites, noneOpen, noFirst]
  | @blamed checked index name declared sites firstOpen =>
      have site := firstOpen.site
      rw [sites] at site
      refine ⟨fun blamed pos => ⟨?_, ?_⟩, ⟨?_, ?_⟩, ?_, ?_⟩
      · intro fails
        cases fails
        exact ⟨checked, index, declared.slot, rfl, firstOpen, site⟩
      · rintro ⟨_, other, slot, ended, otherFirst, -⟩
        cases ended
        rcases firstOpen.unique otherFirst with ⟨rfl, rfl⟩
        rfl
      · intro _
        exact ⟨checked, index, name, declared, rfl, firstOpen.toLeftOpen⟩
      · intro _
        exact ⟨name, declared.pos, rfl⟩
      · intro _ ended
        cases ended
        exact sites
      · intro notBlamed
        exact absurd rfl (notBlamed name declared.pos)

/--
The older `x` and `z` are open but shadowed, and the newest `x` is declared
after `y`, whose initializer tells nothing.
-/
theorem check_blames_first_open_shadowed :
    let code : Function :=
      ⟨⟨1, 1⟩, "f", [], [],
        [ .decl ⟨2, 1⟩ [⟨⟨2, 1⟩, ["x", "z"], none⟩] none,
          .decl ⟨3, 1⟩ [⟨⟨3, 1⟩, ["y"], none⟩] (some (.var ⟨3, 6⟩ "z")),
          .decl ⟨4, 1⟩ [⟨⟨4, 1⟩, ["x"], none⟩] none,
          .decl ⟨5, 1⟩ [⟨⟨5, 1⟩, ["z"], some ⟨⟨5, 4⟩, "int"⟩⟩] none ]⟩
    code.check false = .error ⟨.unresolved "y", ⟨3, 1⟩⟩ ∧
      ∃ checked index slot,
        code.check true = .ok checked ∧
          checked.FirstOpen index "y" ⟨slot, ⟨3, 1⟩⟩ ∧
          code.sites[index]? = some ("y", ⟨3, 1⟩) := by
  intro code
  have fails : code.check false = .error ⟨.unresolved "y", ⟨3, 1⟩⟩ := by
    decide +kernel
  rcases check_blames_first_open code with ⟨blames, -⟩
  exact ⟨fails, (blames _ _).1 fails⟩

end Function

end Sprig
