import Sprig.Proofs.Typing.Coherence

/-!
# Sessions

A session is any sequence of calls on a check that starts with nothing
declared: names declared with any kind, looked up and read, promised kinds
replaced, trees of any shape checked.  A call that fails leaves the state that
it has reached, and the session goes on from there.

Every state of a session is coherent, and every call only adds to the state
before it: bindings go in front of the scope, and what is known of a slot
changes at most once, from unknown to a concrete kind.  Calls that read or
assign names leave the scope as it is.
-/

namespace Sprig

variable {α β : Type}

/-! ## Steps that declare nothing -/

/-- The scope is left as it is, also by a failure. -/
def DeclaresNothing (action : Check α) : Prop :=
  ∀ state, (finalState (action state)).scope = state.scope

namespace DeclaresNothing

theorem pure (value : α) : DeclaresNothing (Pure.pure value) :=
  fun _ => rfl

theorem fail (fault : TypeFault) (pos : Pos) :
    DeclaresNothing (Check.fail fault pos : Check α) :=
  fun _ => rfl

theorem onArena (action : ArenaM α) :
    DeclaresNothing (Check.onArena action) := by
  intro state
  rw [Check.onArena]
  cases action state.arena with
  | ok value arena =>
      rfl
  | error error arena =>
      rfl

theorem bind
    {action : Check α}
    {next : α → Check β}
    (first : DeclaresNothing action)
    (second : ∀ value, DeclaresNothing (next value)) :
    DeclaresNothing (action >>= next) := by
  intro state
  have same := first state
  cases outcome : action state with
  | ok value after =>
      rw [outcome] at same
      rw [bind_eq_of_ok outcome, second value after]
      exact same
  | error error after =>
      rw [outcome] at same
      rw [bind_eq_of_error outcome]
      exact same

theorem discard
    {action : Check α}
    (nothing : DeclaresNothing action) :
    DeclaresNothing (Functor.discard action) := by
  rw [Functor.discard, map_const, Function.comp_apply, ← bind_pure_comp]
  exact nothing.bind fun _ => pure _

theorem mapM
    {step : β → Check α}
    (steps : ∀ item, DeclaresNothing (step item))
    (items : List β) :
    DeclaresNothing (items.mapM step) := by
  induction items with
  | nil =>
      exact pure []
  | cons item items ih =>
      rw [List.mapM_cons]
      exact (steps item).bind fun _ => ih.bind fun _ => pure _

theorem forM
    {step : β → Check PUnit}
    (steps : ∀ item, DeclaresNothing (step item))
    (items : List β) :
    DeclaresNothing (items.forM step) := by
  induction items with
  | nil =>
      exact pure _
  | cons item items ih =>
      exact (steps item).bind fun _ => ih

end DeclaresNothing

namespace Check

theorem declaresNothing_convert (type : TypeRef) :
    DeclaresNothing (convert type) := by
  rw [convert]
  split
  · exact .pure _
  · exact .fail _ _

theorem declaresNothing_declaredKind (decl : Decl) :
    DeclaresNothing (declaredKind decl) := by
  rw [declaredKind]
  split
  · exact declaresNothing_convert _
  · exact .pure _

theorem declaresNothing_lookup (name : String) (pos : Pos) :
    DeclaresNothing (lookup name pos) := by
  intro state
  rw [lookup_eq]
  cases state.scope.get? name with
  | some declared =>
      rfl
  | none =>
      rfl

theorem declaresNothing_slotOf (value : Expr) :
    DeclaresNothing (slotOf value) := by
  cases value with
  | intLit pos text =>
      exact .onArena (Arena.new .int)
  | var pos name =>
      exact declaresNothing_lookup name pos
  | tuple pos elements =>
      exact .fail _ _
  | bare pos =>
      exact .fail _ _

theorem declaresNothing_slotsOf (value : Expr) :
    DeclaresNothing (slotsOf value) :=
  .mapM declaresNothing_slotOf value.components

theorem declaresNothing_checkArity
    (place : Pairing)
    (expected found : Nat)
    (pos : Pos) :
    DeclaresNothing (checkArity place expected found pos) := by
  rw [checkArity]
  split
  · exact .pure _
  · exact .fail _ _

theorem declaresNothing_initializers
    (pos : Pos)
    (decls : List Decl)
    (value : Option Expr) :
    DeclaresNothing (initializers pos decls value) := by
  cases value with
  | none =>
      exact .pure _
  | some value =>
      refine (declaresNothing_slotsOf value).bind fun values => ?_
      exact (declaresNothing_checkArity _ _ _ _).bind fun _ => .pure _

theorem declaresNothing_setRets (kinds : List Kind) :
    DeclaresNothing (setRets kinds) :=
  fun _ => rfl

theorem declaresNothing_agree (first second : Nat) (site : Pos) :
    DeclaresNothing (agree first second site) :=
  .onArena _

theorem declaresNothing_assignStmt
    (pos : Pos)
    (names : List String)
    (value : Expr) :
    DeclaresNothing (assignStmt pos names value) := by
  refine .bind (.mapM (fun name => declaresNothing_lookup name pos) names) ?_
  intro targets
  refine .bind (declaresNothing_slotsOf value) fun values => ?_
  refine .bind (declaresNothing_checkArity _ _ _ _) fun _ => ?_
  exact .forM (fun _ => declaresNothing_agree _ _ pos) _

theorem declaresNothing_returnStmt (pos : Pos) (value : Expr) :
    DeclaresNothing (returnStmt pos value) := by
  refine .bind (declaresNothing_slotsOf value) fun values => ?_
  refine .bind (fun _ => rfl) fun state => ?_
  refine .bind (declaresNothing_checkArity _ _ _ _) fun _ => ?_
  refine .forM (fun both => ?_) _
  exact .bind (.onArena _) fun expected =>
    declaresNothing_agree expected both.2 pos

end Check

/-! ## Calls -/

/-- A call on a check. -/
inductive CheckCall where
  | declare (name : String) (kind : Kind) (pos : Pos)
  | lookup (name : String) (pos : Pos)
  | declaredKind (decl : Decl)
  | slotOf (value : Expr)
  | slotsOf (value : Expr)
  | setRets (kinds : List Kind)
  | stmt (statement : Stmt)
  | body (statements : List Stmt)
  | function (code : Function)
  | resolved

namespace CheckCall

/-- The call as an action whose result is dropped. -/
def perform : CheckCall → Check Unit
  | declare name kind pos => discard (Check.declare name kind pos)
  | lookup name pos => discard (Check.lookup name pos)
  | declaredKind decl => discard (Check.declaredKind decl)
  | slotOf value => discard (Check.slotOf value)
  | slotsOf value => discard (Check.slotsOf value)
  | setRets kinds => Check.setRets kinds
  | stmt statement => Check.stmt statement
  | body statements => statements.forM Check.stmt
  | function code => Check.function code
  | resolved => Check.resolved

/-- Calls that only read names or assign to them. -/
inductive IsQuiet : CheckCall → Prop where
  | lookup (name : String) (pos : Pos) : IsQuiet (.lookup name pos)
  | slotOf (value : Expr) : IsQuiet (.slotOf value)
  | slotsOf (value : Expr) : IsQuiet (.slotsOf value)
  | assign (pos : Pos) (names : List String) (value : Expr) :
      IsQuiet (.stmt (.assign pos names value))
  | ret (pos : Pos) (value : Expr) : IsQuiet (.stmt (.ret pos value))

end CheckCall

namespace CheckState

/-- The state after a call, whether the call fails or not. -/
def after (state : CheckState) (call : CheckCall) : CheckState :=
  finalState (call.perform state)

/-- The state after a session. -/
def afterAll (calls : List CheckCall) : CheckState :=
  calls.foldl after initial

end CheckState

namespace CheckCall

variable {state : CheckState}

theorem keeps_perform
    (coherent : state.Coherent)
    (call : CheckCall) :
    Keeps coherence state (fun _ _ => True) (call.perform state) := by
  cases call with
  | declare name kind pos =>
      exact (Check.keeps_declare coherent name kind pos).discard
  | lookup name pos =>
      exact (Check.keeps_lookup coherent name pos).discard
  | declaredKind decl =>
      exact (Keeps.declaredKind decl coherent
        fun _ _ => coherence_errors nofun).discard
  | slotOf value =>
      exact (Check.keeps_slotOf coherent value).discard
  | slotsOf value =>
      exact (Check.keeps_slotsOf coherent value).discard
  | setRets kinds =>
      exact Check.keeps_setRets coherent kinds
  | stmt statement =>
      exact Check.keeps_stmt coherent statement
  | body statements =>
      exact Check.keeps_body coherent statements
  | function code =>
      exact Check.keeps_function coherent code
  | resolved =>
      exact Check.keeps_resolved coherent

theorem scope_after_of_isQuiet
    {call : CheckCall}
    (quiet : call.IsQuiet)
    (state : CheckState) :
    (state.after call).scope = state.scope := by
  cases quiet with
  | lookup name pos =>
      exact (Check.declaresNothing_lookup name pos).discard state
  | slotOf value =>
      exact (Check.declaresNothing_slotOf value).discard state
  | slotsOf value =>
      exact (Check.declaresNothing_slotsOf value).discard state
  | assign pos names value =>
      exact Check.declaresNothing_assignStmt pos names value state
  | ret pos value =>
      exact Check.declaresNothing_returnStmt pos value state

end CheckCall

/-! ## What a session keeps -/

namespace CheckState

variable {state before later : CheckState}

theorem Coherent.after
    (coherent : state.Coherent)
    (call : CheckCall) :
    (state.after call).Coherent :=
  (CheckCall.keeps_perform coherent call).finalState.1

theorem Coherent.adds_after
    (coherent : state.Coherent)
    (call : CheckCall) :
    state.Adds (state.after call) :=
  (CheckCall.keeps_perform coherent call).finalState.2

/-- A session keeps a state coherent and only adds to it. -/
theorem Coherent.foldl
    (coherent : state.Coherent)
    (calls : List CheckCall) :
    (calls.foldl CheckState.after state).Coherent ∧
      state.Adds (calls.foldl CheckState.after state) := by
  induction calls generalizing state with
  | nil =>
      exact ⟨coherent, .refl state⟩
  | cons call calls ih =>
      rcases ih (coherent.after call) with ⟨kept, adds⟩
      exact ⟨kept, (coherent.adds_after call).trans adds⟩

theorem coherent_afterAll (calls : List CheckCall) :
    (afterAll calls).Coherent :=
  (coherent_initial.foldl calls).1

/-- The site of an older slot is not touched by bindings of newer ones. -/
theorem Adds.declPos?_eq
    {slot : Nat}
    (adds : before.Adds later)
    (inside : slot < before.arena.size) :
    later.declPos? slot = before.declPos? slot := by
  rcases adds.scope with ⟨added, same, fresh⟩
  -- The search starts at the newest binding and passes all that were added.
  have notAdded : added.find? (fun binding => binding.2.slot = slot) = none := by
    rw [List.find?_eq_none]
    intro binding member isSlot
    have newer := fresh binding member
    rw [of_decide_eq_true isSlot] at newer
    exact Nat.not_lt.2 newer inside
  rw [declPos?, same, List.find?_append, notAdded, Option.none_or]
  rfl

/--
A later state that takes nothing back.  Its scope ends with the older scope,
each older slot has the same site and the same stored kind, and the kind that
is read from it is the same, unless it was unknown and is concrete now.
-/
structure Preserves (before later : CheckState) : Prop where
  scope : before.scope.toList <:+ later.scope.toList
  site : ∀ slot < before.arena.size,
    later.declPos? slot = before.declPos? slot
  stored : ∀ slot < before.arena.size,
    later.arena.kinds[slot]? = before.arena.kinds[slot]?
  resolved : ∀ slot < before.arena.size,
    ∃ was now,
      Arena.get slot before.arena = .ok was before.arena ∧
        Arena.get slot later.arena = .ok now later.arena ∧
          (now = was ∨ was = .unknown ∧ now.isConcrete = true)

theorem Adds.preserves
    (adds : before.Adds later)
    (coherent : before.Coherent)
    (coherentLater : later.Coherent) :
    before.Preserves later where
  scope := by
    rcases adds.scope with ⟨added, same, -⟩
    exact ⟨added, same.symm⟩
  site := fun _ inside => adds.declPos?_eq inside
  stored := adds.learns.stored
  resolved := by
    intro slot inside
    have insideLater := Nat.lt_of_lt_of_le inside adds.size_le
    exact ⟨_, _, coherent.tidy.get_eq inside,
      coherentLater.tidy.get_eq insideLater, adds.learns.resolved slot inside⟩

/--
Whatever a session has done, the next call takes nothing back, whether it
succeeds or fails, and a call that only reads or assigns names leaves the
scope with its sites as it is.  A kind that is concrete is thus the kind of
its slot for the rest of the session.
-/
theorem session_only_adds (calls : List CheckCall) :
    (∀ call : CheckCall,
      (afterAll calls).Preserves ((afterAll calls).after call) ∧
        (call.IsQuiet →
          ((afterAll calls).after call).scope = (afterAll calls).scope ∧
            ((afterAll calls).after call).declPos? =
              (afterAll calls).declPos?)) ∧
      ∀ (more : List CheckCall) (slot : Nat) (kind : Kind),
        slot < (afterAll calls).arena.size →
          Arena.get slot (afterAll calls).arena =
              .ok kind (afterAll calls).arena →
            kind.isConcrete = true →
              Arena.get slot (afterAll (calls ++ more)).arena =
                .ok kind (afterAll (calls ++ more)).arena := by
  have coherent := coherent_afterAll calls
  refine ⟨fun call => ⟨?_, fun quiet => ?_⟩, ?_⟩
  · exact (coherent.adds_after call).preserves coherent (coherent.after call)
  · have same := CheckCall.scope_after_of_isQuiet quiet (afterAll calls)
    refine ⟨same, funext fun slot => ?_⟩
    rw [declPos?, declPos?, same]
  · intro more slot kind inside got concrete
    rw [afterAll, List.foldl_append]
    rcases coherent.foldl more with ⟨coherentLater, adds⟩
    have insideLater := Nat.lt_of_lt_of_le inside adds.size_le
    rw [coherent.tidy.get_eq inside] at got
    cases got
    have same := adds.learns.kindOf_eq inside concrete
    rw [← same]
    exact coherentLater.tidy.get_eq insideLater

end CheckState

end Sprig
