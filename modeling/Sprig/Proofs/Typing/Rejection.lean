import Sprig.Proofs.Typing.Charge
import Sprig.Proofs.Typing.Session

/-!
# Statements that are turned down

A statement finds its targets, types the components of its value and compares
their number with what receives them.  Only then does it bind a name or make
two slots agree.  A name that is not declared, a component that has no single
kind and a wrong number of values are all found out before that, and nothing
else that may go wrong is one of these.

So a statement that is turned down for such a reason has had no effect, except
for the slots of the literals that it has typed so far.  Which these are can
be told from the statement and the scope: those in front of the first
component without a slot, or none if a target is not declared.
-/

namespace Sprig

/-! ## What has been typed -/

/-- Whether a component is a literal. -/
def Expr.isLiteral : Expr → Bool
  | .intLit _ _ => true
  | .var _ _ => false
  | .tuple _ _ => false
  | .bare _ => false

/-- Whether a component has a slot: a literal has, and a declared name. -/
def Expr.hasSlot (scope : Scope Declared) : Expr → Bool
  | .intLit _ _ => true
  | .var _ name => scope.contains name
  | .tuple _ _ => false
  | .bare _ => false

/-- The number of literals in front of the first component without a slot. -/
def Expr.literals (scope : Scope Declared) (value : Expr) : Nat :=
  (value.components.takeWhile (Expr.hasSlot scope)).countP Expr.isLiteral

/-- The number of literals that a statement types; targets come first. -/
def Stmt.literals (scope : Scope Declared) (statement : Stmt) : Nat :=
  if statement.targets.all scope.contains then
    (statement.value?.map (Expr.literals scope)).getD 0
  else
    0

/-- The classes of faults that are found before anything is bound. -/
def rejectionCategories : List String :=
  ["UndeclaredIdentifier", "ArityMismatch", "UnsupportedConstruct"]

namespace Arena

variable {arena : Arena}
variable {slot : Nat}

/-- The arena with the slots of some literals. -/
def withLiterals (arena : Arena) : (count : Nat) → Arena
  | 0 => arena
  | count + 1 => (arena.withLiterals count).push .int

theorem withLiterals_push (arena : Arena) (count : Nat) :
    (arena.push .int).withLiterals count = arena.withLiterals (count + 1) := by
  induction count with
  | zero =>
      rfl
  | succ count ih =>
      rw [withLiterals, ih]
      rfl

@[simp]
theorem size_withLiterals (arena : Arena) (count : Nat) :
    (arena.withLiterals count).size = arena.size + count := by
  induction count with
  | zero =>
      rfl
  | succ count ih =>
      rw [withLiterals, size_push, ih, Nat.add_assoc]

namespace Tidy

theorem withLiterals
    (tidy : arena.Tidy)
    (count : Nat) :
    (arena.withLiterals count).Tidy := by
  induction count with
  | zero =>
      exact tidy
  | succ count ih =>
      exact ih.push .int

/-- Older slots keep what is stored, their parents and their kinds. -/
theorem withLiterals_old
    (tidy : arena.Tidy)
    (inside : slot < arena.size)
    (count : Nat) :
    (arena.withLiterals count).kinds[slot]? = arena.kinds[slot]? ∧
      (arena.withLiterals count).parents[slot]? = arena.parents[slot]? ∧
      (arena.withLiterals count).kindOf slot = arena.kindOf slot := by
  induction count with
  | zero =>
      exact ⟨rfl, rfl, rfl⟩
  | succ count ih =>
      have tidyBefore := tidy.withLiterals count
      have insideKinds : slot < (arena.withLiterals count).size := by
        rw [size_withLiterals]
        exact Nat.lt_add_right count inside
      have insideParents : slot < (arena.withLiterals count).parents.size := by
        rw [tidyBefore.size_eq]
        exact insideKinds
      rcases ih with ⟨stored, parent, kind⟩
      refine ⟨?_, ?_, ?_⟩
      · rw [← stored, Arena.withLiterals, Arena.push,
          Array.getElem?_push_lt insideKinds]
        exact (Array.getElem?_eq_getElem insideKinds).symm
      · rw [← parent, Arena.withLiterals, Arena.push,
          Array.getElem?_push_lt insideParents]
        exact (Array.getElem?_eq_getElem insideParents).symm
      · rw [← kind, Arena.withLiterals]
        exact tidyBefore.kindOf_push_of_lt .int insideKinds

/-- The slot of a literal is a root of kind `int`. -/
theorem withLiterals_fresh
    {count : Nat}
    (tidy : arena.Tidy)
    (old : arena.size ≤ slot)
    (inside : slot < (arena.withLiterals count).size) :
    (arena.withLiterals count).kinds[slot]? = some .int ∧
      (arena.withLiterals count).parents[slot]? = some slot := by
  induction count with
  | zero =>
      exact (Nat.not_lt.2 old inside).elim
  | succ count ih =>
      rw [Arena.withLiterals, size_push] at inside
      rcases Nat.lt_succ_iff_lt_or_eq.1 inside with earlier | rfl
      · rcases ih earlier with ⟨stored, parent⟩
        exact ⟨getElem?_push_of_eq_some stored _,
          getElem?_push_of_eq_some parent _⟩
      · have rooted := (tidy.withLiterals count).rooted_push .int
        exact ⟨rooted.stored, rooted.parent⟩

end Tidy

end Arena

namespace CheckState

/-- The state with the slots of some literals. -/
def withLiterals (state : CheckState) (count : Nat) : CheckState :=
  { state with arena := state.arena.withLiterals count }

end CheckState

/-! ## Values -/

namespace Check

variable {state middle after : CheckState}
variable {error : TypeError}
variable {value : Expr}
variable {values : List Nat}
variable {pos : Pos}

/-- Targets are all declared, or the first that is not is a fault. -/
theorem lookups_eq (names : List String) (pos : Pos) (state : CheckState) :
    (names.all state.scope.contains = true ∧
      ∃ targets, (names.mapM fun name => lookup name pos) state =
        .ok targets state) ∨
    (names.all state.scope.contains = false ∧
      ∃ error, (names.mapM fun name => lookup name pos) state =
        .error error state) := by
  induction names with
  | nil =>
      exact .inl ⟨rfl, [], rfl⟩
  | cons name names ih =>
      rw [List.mapM_cons, List.all_cons, Scope.contains]
      have found := lookup_eq name pos state
      cases bound : state.scope.get? name with
      | none =>
          rw [bound] at found
          exact .inr ⟨rfl, _, bind_eq_of_error found _⟩
      | some declared =>
          rw [bound] at found
          rw [bind_eq_of_ok found]
          rcases ih with ⟨all, targets, finds⟩ | ⟨some, error, fails⟩
          · refine .inl ⟨all, declared.slot :: targets, ?_⟩
            rw [bind_eq_of_ok finds]
            rfl
          · refine .inr ⟨some, error, ?_⟩
            rw [bind_eq_of_error fails]

/-- Typing stops at the first component without a slot. -/
theorem finalState_mapM_slotOf
    (components : List Expr)
    (state : CheckState) :
    finalState (components.mapM slotOf state) =
      state.withLiterals
        ((components.takeWhile (Expr.hasSlot state.scope)).countP
          Expr.isLiteral) := by
  induction components generalizing state with
  | nil =>
      rfl
  | cons component components ih =>
      rw [List.mapM_cons]
      cases component with
      | intLit pos text =>
          have typed : slotOf (.intLit pos text) state =
              .ok state.arena.size (state.withLiterals 1) := rfl
          rw [bind_eq_of_ok typed, finalState_bind_pure, ih,
            List.takeWhile_cons_of_pos rfl, List.countP_cons_of_pos rfl]
          exact congrArg (fun arena => { state with arena })
            (Arena.withLiterals_push state.arena _)
      | var pos name =>
          have found := lookup_eq name pos state
          cases bound : state.scope.get? name with
          | none =>
              rw [bound] at found
              have typed : slotOf (.var pos name) state =
                  .error ⟨.undeclared name, pos⟩ state := found
              have without :
                  ¬ Expr.hasSlot state.scope (.var pos name) = true := by
                simp [Expr.hasSlot, Scope.contains, bound]
              rw [bind_eq_of_error typed, List.takeWhile_cons_of_neg without]
              rfl
          | some declared =>
              rw [bound] at found
              have typed : slotOf (.var pos name) state =
                  .ok declared.slot state := found
              have bears :
                  Expr.hasSlot state.scope (.var pos name) = true := by
                simp [Expr.hasSlot, Scope.contains, bound]
              rw [bind_eq_of_ok typed, finalState_bind_pure, ih,
                List.takeWhile_cons_of_pos bears,
                List.countP_cons_of_neg Bool.false_ne_true]
      | tuple pos elements =>
          rfl
      | bare pos =>
          rfl

theorem finalState_slotsOf (value : Expr) (state : CheckState) :
    finalState (slotsOf value state) =
      state.withLiterals (value.literals state.scope) :=
  finalState_mapM_slotOf value.components state

/-! ## What follows the values -/

/-- A fault that is not found before something is bound. -/
abbrev IsLate (error : TypeError) : Prop :=
  error.fault.category ∉ rejectionCategories

theorem isLate_mismatch {site : Pos} (expected found : Kind) :
    IsLate ⟨.mismatch expected found, site⟩ := by
  simp [IsLate, TypeFault.category, rejectionCategories]

theorem isLate_noSuchSlot : IsLate ⟨.noSuchSlot, .nowhere⟩ := by
  simp [IsLate, TypeFault.category, rejectionCategories]

theorem isLate_unknownType {name : String} :
    IsLate ⟨.unknownType name, pos⟩ := by
  simp [IsLate, TypeFault.category, rejectionCategories]

/-- The state is left as it is by a fault that is not a late one. -/
def RejectsUntouched {α : Type} (action : Check α) : Prop :=
  ∀ state error after, action state = .error error after →
    error.fault.category ∈ rejectionCategories → after = state

namespace RejectsUntouched

variable {α : Type}

theorem get_bind
    {next : CheckState → Check α}
    (untouched : ∀ read, RejectsUntouched (next read)) :
    RejectsUntouched (get >>= next) :=
  fun state error after fails rejected =>
    untouched state state error after fails rejected

/-- Counts are compared first, and what follows is late. -/
theorem checkArity_bind
    {place : Pairing}
    {expected found : Nat}
    {next : Unit → Check α}
    (late : ∀ value, FailsOnly IsLate (next value)) :
    RejectsUntouched (checkArity place expected found pos >>= next) := by
  intro state error after fails rejected
  rcases fails_of_bind_eq_error fails with counted | ⟨value, middle, -, fails⟩
  · rw [checkArity] at counted
    split at counted
    · cases counted
    · cases counted
      rfl
  · exact absurd rejected (late value middle error after fails)

end RejectsUntouched

/-- The values are typed, and a rejection afterwards changes nothing more. -/
theorem slotsOf_rejected
    {α : Type}
    {next : List Nat → Check α}
    (untouched : ∀ values, RejectsUntouched (next values))
    (fails : (slotsOf value >>= next) state = .error error after)
    (rejected : error.fault.category ∈ rejectionCategories) :
    after = state.withLiterals (value.literals state.scope) := by
  have typed := finalState_slotsOf value state
  rcases fails_of_bind_eq_error fails with stops | ⟨values, middle, goes, fails⟩
  · rw [stops] at typed
    exact typed
  · rw [goes] at typed
    rw [untouched values middle error after fails rejected]
    exact typed

/-! ## Statements -/

theorem declStmt_rejected
    {decls : List Decl}
    {initial : Option Expr}
    (fails : declStmt pos decls initial state = .error error after)
    (rejected : error.fault.category ∈ rejectionCategories) :
    after = state.withLiterals
      ((Stmt.decl pos decls initial).literals state.scope) := by
  have late (values : List Nat) : FailsOnly IsLate
      (discard (decls.foldlM (fun values decl => bindDecl decl pos values)
        values) : Check Unit) :=
    .discard (failsOnly_bindDecls (fun _ _ _ _ _ => isLate_unknownType)
      isLate_mismatch isLate_noSuchSlot values)
  cases initial with
  | none =>
      rw [declStmt, initializers, pure_bind] at fails
      exact absurd rejected (late [] state error after fails)
  | some value =>
      simp only [declStmt, initializers, bind_assoc, pure_bind] at fails
      refine slotsOf_rejected (fun values => ?_) fails rejected
      exact .checkArity_bind fun _ => late values

theorem assignStmt_rejected
    {names : List String}
    (fails : assignStmt pos names value state = .error error after)
    (rejected : error.fault.category ∈ rejectionCategories) :
    after = state.withLiterals
      ((Stmt.assign pos names value).literals state.scope) := by
  rw [assignStmt] at fails
  rw [Stmt.literals, Stmt.targets]
  rcases lookups_eq names pos state with
    ⟨all, targets, finds⟩ | ⟨missing, found, stops⟩
  · rw [bind_eq_of_ok finds] at fails
    rw [all, if_pos rfl]
    refine slotsOf_rejected (fun values => ?_) fails rejected
    refine .checkArity_bind fun _ => ?_
    exact .forM fun _ _ => failsOnly_agree isLate_mismatch isLate_noSuchSlot
  · rw [bind_eq_of_error stops] at fails
    rw [missing, if_neg Bool.false_ne_true]
    cases fails
    rfl

theorem returnStmt_rejected
    (fails : returnStmt pos value state = .error error after)
    (rejected : error.fault.category ∈ rejectionCategories) :
    after = state.withLiterals
      ((Stmt.ret pos value).literals state.scope) := by
  rw [returnStmt] at fails
  refine slotsOf_rejected (fun values => ?_) fails rejected
  refine .get_bind fun read => ?_
  refine .checkArity_bind fun _ => ?_
  refine .forM fun pair _ => ?_
  exact (failsOnly_new pair.1).bind fun _ =>
    failsOnly_agree isLate_mismatch isLate_noSuchSlot

/-- A statement that is turned down has typed some literals and done no more. -/
theorem stmt_rejected
    {statement : Stmt}
    (fails : stmt statement state = .error error after)
    (rejected : error.fault.category ∈ rejectionCategories) :
    after = state.withLiterals (statement.literals state.scope) := by
  cases statement with
  | decl pos decls value =>
      exact declStmt_rejected fails rejected
  | assign pos names value =>
      exact assignStmt_rejected fails rejected
  | ret pos value =>
      exact returnStmt_rejected fails rejected
  | bare pos =>
      cases fails
      rfl

end Check

namespace CheckState

variable {state : CheckState}

/--
Scope, sites and promised kinds are the same, every older slot has the same
stored kind, parent and kind, and beyond them there are the slots of a number
of literals.
-/
structure OnlyTyped (before after : CheckState) (literals : Nat) : Prop where
  scope_eq : after.scope = before.scope
  sites_eq : after.declPos? = before.declPos?
  rets_eq : after.rets = before.rets
  stored : ∀ slot < before.arena.size,
    after.arena.kinds[slot]? = before.arena.kinds[slot]?
  parent : ∀ slot < before.arena.size,
    after.arena.parents[slot]? = before.arena.parents[slot]?
  resolved : ∀ slot < before.arena.size, ∃ kind,
    Arena.get slot before.arena = .ok kind before.arena ∧
      Arena.get slot after.arena = .ok kind after.arena
  size_eq : after.arena.size = before.arena.size + literals
  fresh : ∀ slot, before.arena.size ≤ slot → slot < after.arena.size →
    after.arena.kinds[slot]? = some .int ∧
      after.arena.parents[slot]? = some slot

theorem Coherent.onlyTyped
    (coherent : state.Coherent)
    (literals : Nat) :
    state.OnlyTyped (state.withLiterals literals) literals where
  scope_eq := rfl
  sites_eq := rfl
  rets_eq := rfl
  stored := fun _ inside =>
    (coherent.tidy.withLiterals_old inside literals).1
  parent := fun _ inside =>
    (coherent.tidy.withLiterals_old inside literals).2.1
  resolved := by
    intro slot inside
    have same := (coherent.tidy.withLiterals_old inside literals).2.2
    refine ⟨state.arena.kindOf slot, coherent.tidy.get_eq inside, ?_⟩
    rw [← same]
    apply (coherent.tidy.withLiterals literals).get_eq
    rw [Arena.size_withLiterals]
    exact Nat.lt_add_right literals inside
  size_eq := Arena.size_withLiterals state.arena literals
  fresh := fun _ old inside => coherent.tidy.withLiterals_fresh old inside

/--
In whatever state a session is, a statement that is turned down for a name
that is not declared, a wrong number of values or a construct that is not
supported has had no effect, except for the literals typed before the fault.
-/
theorem rejected_statement_only_types
    {calls : List CheckCall}
    {statement : Stmt}
    {error : TypeError}
    {after : CheckState}
    (fails : Check.stmt statement (afterAll calls) = .error error after)
    (rejected : error.fault.category ∈ rejectionCategories) :
    (afterAll calls).OnlyTyped after
      (statement.literals (afterAll calls).scope) := by
  rw [Check.stmt_rejected fails rejected]
  exact (coherent_afterAll calls).onlyTyped _

/-- Two literals are typed before the name `z` is missed. -/
theorem rejected_statement_only_types_missing :
    ∃ (calls : List CheckCall) (statement : Stmt) (error : TypeError)
        (after : CheckState),
      calls = [.declare "x" .unknown ⟨1, 1⟩, .declare "y" .int ⟨1, 2⟩,
        .stmt (.assign ⟨2, 1⟩ ["x"] (.var ⟨2, 3⟩ "y"))] ∧
      statement = .assign ⟨3, 1⟩ ["x"] (.tuple ⟨3, 5⟩ [.intLit ⟨3, 5⟩ "1",
        .var ⟨3, 7⟩ "x", .intLit ⟨3, 9⟩ "2", .var ⟨3, 11⟩ "z",
        .intLit ⟨3, 13⟩ "3"]) ∧
      Check.stmt statement (afterAll calls) = .error error after ∧
      error = ⟨.undeclared "z", ⟨3, 11⟩⟩ ∧
      error.fault.category ∈ rejectionCategories ∧
      statement.literals (afterAll calls).scope = 2 ∧
      (afterAll calls).OnlyTyped after
        (statement.literals (afterAll calls).scope) := by
  refine ⟨_, _, ⟨.undeclared "z", ⟨3, 11⟩⟩, _, rfl, rfl, rfl, rfl, .head _,
    rfl, ?_⟩
  exact rejected_statement_only_types rfl (.head _)

end CheckState

end Sprig
