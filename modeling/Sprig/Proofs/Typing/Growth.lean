import Mathlib.Tactic.SplitIfs
import Sprig.Proofs.Scope
import Sprig.Proofs.Typing.Tidy
import Sprig.Typing.Check

/-!
# Steps that only add

A check never takes anything back.  Slots are added to the arena and bindings
to the scope, a slot keeps the kind that is stored in it, and what is known of
it changes at most once, from unknown to a concrete kind.  `Adds` says this of
a state and a later one.

A `Demand` is what one wants to hold throughout a check, of its states and of
the errors that it may end in.  `Keeps` says of the outcome of a step that it
is within the demand and only adds to the state that the step began in,
whether the step succeeds or fails.  The rules below carry this through
sequences and loops, and from the steps on slots to whole statements and
functions.
-/

namespace Sprig

namespace Arena

/-- Slots keep what is stored in them, and what is known of them. -/
structure Learns (before after : Arena) : Prop where
  size_le : before.size ≤ after.size
  stored : ∀ slot < before.size, after.kinds[slot]? = before.kinds[slot]?
  resolved : ∀ slot < before.size,
    after.kindOf slot = before.kindOf slot ∨
      before.kindOf slot = .unknown ∧ (after.kindOf slot).isConcrete = true

variable {before middle after : Arena}
variable {arena : Arena}

theorem Learns.refl (arena : Arena) : arena.Learns arena where
  size_le := Nat.le_refl _
  stored := fun _ _ => rfl
  resolved := fun _ _ => .inl rfl

theorem Learns.trans
    (first : before.Learns middle)
    (second : middle.Learns after) :
    before.Learns after where
  size_le := Nat.le_trans first.size_le second.size_le
  stored := by
    intro slot inside
    have insideMiddle := Nat.lt_of_lt_of_le inside first.size_le
    rw [second.stored slot insideMiddle, first.stored slot inside]
  resolved := by
    intro slot inside
    have insideMiddle := Nat.lt_of_lt_of_le inside first.size_le
    -- What has become concrete on the way is not unknown in the middle, so
    -- only one of the two steps can have settled the slot.
    rcases second.resolved slot insideMiddle with same | ⟨unknown, concrete⟩
    · rw [same]
      exact first.resolved slot inside
    · rcases first.resolved slot inside with same | ⟨-, concreteMiddle⟩
      · exact .inr ⟨same.symm.trans unknown, concrete⟩
      · rw [unknown] at concreteMiddle
        cases concreteMiddle

/-- A slot of concrete kind keeps it. -/
theorem Learns.kindOf_eq
    {slot : Nat}
    (learns : before.Learns after)
    (inside : slot < before.size)
    (concrete : (before.kindOf slot).isConcrete = true) :
    after.kindOf slot = before.kindOf slot := by
  rcases learns.resolved slot inside with same | ⟨unknown, -⟩
  · exact same
  · rw [unknown] at concrete
    cases concrete

theorem Tidy.learns_push
    (tidy : arena.Tidy)
    (kind : Kind) :
    arena.Learns (arena.push kind) where
  size_le := by
    rw [size_push]
    exact Nat.le_succ _
  stored := by
    intro slot inside
    have old : slot < arena.kinds.size := inside
    rw [Arena.push, Array.getElem?_push_lt old, Array.getElem?_eq_getElem old]
  resolved := fun slot inside => .inl (tidy.kindOf_push_of_lt kind inside)

/-- One slot settled, with nothing stored anew, is something learnt. -/
theorem Settles.learns
    {slot : Nat}
    {kind : Kind}
    (settles : Settles before after slot kind)
    (unknown : before.kindOf slot = .unknown)
    (concrete : kind.isConcrete = true)
    (kinds : after.kinds = before.kinds) :
    before.Learns after where
  size_le := Nat.le_of_eq settles.size_eq.symm
  stored := fun _ _ => by rw [kinds]
  resolved := by
    intro other inside
    by_cases same : other = slot
    · subst same
      rw [settles.kindOf_self]
      exact .inr ⟨unknown, concrete⟩
    · exact .inl (settles.kindOf_other other inside same)

/-- Making two slots agree stores no kind. -/
theorem Tidy.kinds_of_unify
    {first second : Nat}
    {site : Option Pos}
    (tidy : arena.Tidy)
    (firstInside : first < arena.size)
    (secondInside : second < arena.size)
    (unified : unify first second site arena = .ok () after) :
    after.kinds = arena.kinds := by
  rcases tidy.rooted first firstInside with ⟨firstRoot, firstKind, atFirst⟩
  rcases tidy.rooted second secondInside with ⟨secondRoot, secondKind, atSecond⟩
  rw [unify_eq atFirst atSecond] at unified
  split_ifs at unified
  all_goals
    cases unified
    rfl

/-- Two slots made to agree: something is learnt, or two kinds differ. -/
inductive Agreement
    (arena : Arena) (site : Option Pos) :
    EStateM.Result TypeError Arena Unit → Prop where
  | agreed
      {after : Arena}
      (tidy : after.Tidy)
      (size_eq : after.size = arena.size)
      (learns : arena.Learns after) :
      Agreement arena site (.ok () after)
  | refused
      {expected found : Kind} :
      Agreement arena site
        (.error ⟨.mismatch expected found, site.getD .nowhere⟩ arena)

theorem Tidy.agreement
    {first second : Nat}
    (tidy : arena.Tidy)
    (firstInside : first < arena.size)
    (secondInside : second < arena.size)
    (site : Option Pos) :
    Agreement arena site (unify first second site arena) := by
  have settled {after : Arena} {slot : Nat} {kind : Kind}
      (unified : unify first second site arena = .ok () after)
      (settles : Settles arena after slot kind)
      (unknown : arena.kindOf slot = .unknown)
      (concrete : kind.isConcrete = true) :
      Agreement arena site (unify first second site arena) := by
    rw [unified]
    have kinds := tidy.kinds_of_unify firstInside secondInside unified
    exact .agreed settles.tidy settles.size_eq
      (settles.learns unknown concrete kinds)
  -- The kinds are equal, or one of them is open, or both are concrete.
  by_cases same : arena.kindOf first = arena.kindOf second
  · rw [tidy.unify_of_eq firstInside secondInside same]
    exact .agreed tidy rfl (.refl arena)
  · cases firstConcrete : (arena.kindOf first).isConcrete with
    | false =>
        have unknown := Kind.isConcrete_eq_false_iff.1 firstConcrete
        have concrete : (arena.kindOf second).isConcrete = true := by
          rw [← Bool.not_eq_false, Kind.isConcrete_eq_false_iff, ← unknown]
          exact Ne.symm same
        rcases
            tidy.unify_of_unknown_left firstInside secondInside unknown
              concrete site with
          ⟨after, unified, settles⟩
        exact settled unified settles unknown concrete
    | true =>
        cases secondConcrete : (arena.kindOf second).isConcrete with
        | false =>
            have unknown := Kind.isConcrete_eq_false_iff.1 secondConcrete
            rcases
                tidy.unify_of_unknown_right firstInside secondInside
                  firstConcrete unknown site with
              ⟨after, unified, settles⟩
            exact settled unified settles unknown firstConcrete
        | true =>
            rw [tidy.unify_of_mismatch firstInside secondInside firstConcrete
              secondConcrete same]
            exact .refused

end Arena

/-! ## States -/

namespace CheckState

/-- The arena learns, and new slots are bound in front of the scope. -/
structure Adds (before after : CheckState) : Prop where
  learns : before.arena.Learns after.arena
  scope : ∃ added, after.scope.toList = added ++ before.scope.toList ∧
    ∀ binding ∈ added, before.arena.size ≤ binding.2.slot

variable {before middle after state : CheckState}

theorem Adds.refl (state : CheckState) : state.Adds state where
  learns := .refl _
  scope := ⟨[], rfl, List.forall_mem_nil _⟩

theorem Adds.trans
    (first : before.Adds middle)
    (second : middle.Adds after) :
    before.Adds after where
  learns := first.learns.trans second.learns
  scope := by
    rcases first.scope with ⟨added, toMiddle, fresh⟩
    rcases second.scope with ⟨addedLater, toAfter, freshLater⟩
    refine ⟨addedLater ++ added, ?_, ?_⟩
    · rw [toAfter, toMiddle, List.append_assoc]
    · refine List.forall_mem_append.2 ⟨?_, fresh⟩
      intro binding member
      exact Nat.le_trans first.learns.size_le (freshLater binding member)

theorem Adds.size_le (adds : before.Adds after) :
    before.arena.size ≤ after.arena.size :=
  adds.learns.size_le

/-- Only the arena changes. -/
theorem Adds.of_learns
    {arena : Arena}
    (learns : state.arena.Learns arena) :
    state.Adds { state with arena } where
  learns := learns
  scope := ⟨[], rfl, List.forall_mem_nil _⟩

end CheckState

/-- A name is looked up; nothing changes. -/
theorem Check.lookup_eq (name : String) (pos : Pos) (state : CheckState) :
    Check.lookup name pos state =
      match state.scope.get? name with
      | some declared => .ok declared.slot state
      | none => .error ⟨.undeclared name, pos⟩ state := by
  have got : (get : Check CheckState) state = .ok state state := rfl
  rw [Check.lookup, bind_eq_of_ok got]
  cases state.scope.get? name with
  | some declared =>
      rfl
  | none =>
      rfl

/-! ## Demands -/

/-- What is wanted of the states of a check and of the errors in it. -/
structure Demand where
  states : CheckState → Prop
  errors : TypeError → Prop

variable {α β : Type}

/-- An outcome within a demand that only adds to the state before it. -/
inductive Keeps
    (demand : Demand)
    (before : CheckState)
    (good : CheckState → α → Prop) :
    EStateM.Result TypeError CheckState α → Prop where
  | ok
      {value : α} {after : CheckState}
      (kept : demand.states after)
      (adds : before.Adds after)
      (isGood : good after value) :
      Keeps demand before good (.ok value after)
  | error
      {error : TypeError} {after : CheckState}
      (kept : demand.states after)
      (adds : before.Adds after)
      (allowed : demand.errors error) :
      Keeps demand before good (.error error after)

/-- What holds of a value goes on to hold when a state is added to. -/
def Lasts (good : CheckState → α → Prop) : Prop :=
  ∀ ⦃before after⦄, before.Adds after →
    ∀ ⦃value⦄, good before value → good after value

theorem Lasts.all
    {good : CheckState → α → Prop}
    (lasts : Lasts good) :
    Lasts fun state (values : List α) => ∀ value ∈ values, good state value :=
  fun _ _ adds _ all value member => lasts adds (all value member)

namespace Keeps

variable {demand : Demand}
variable {before state : CheckState}
variable {good : CheckState → α → Prop}
variable {further : CheckState → β → Prop}

theorem pure
    {value : α}
    (kept : demand.states state)
    (isGood : good state value) :
    Keeps demand state good ((Pure.pure value : Check α) state) :=
  .ok kept (.refl state) isGood

theorem fail
    {fault : TypeFault}
    {pos : Pos}
    (kept : demand.states state)
    (allowed : demand.errors ⟨fault, pos⟩) :
    Keeps demand state good (Check.fail fault pos state) :=
  .error kept (.refl state) allowed

/-- The final state is within the demand and only adds. -/
theorem finalState
    {outcome : EStateM.Result TypeError CheckState α}
    (keeps : Keeps demand before good outcome) :
    demand.states (Sprig.finalState outcome) ∧
      before.Adds (Sprig.finalState outcome) := by
  cases keeps with
  | ok kept adds _ =>
      exact ⟨kept, adds⟩
  | error kept adds _ =>
      exact ⟨kept, adds⟩

/-- Less may be said of the result. -/
theorem weaken
    {outcome : EStateM.Result TypeError CheckState α}
    {alsoGood : CheckState → α → Prop}
    (keeps : Keeps demand before good outcome)
    (weaker : ∀ after value, demand.states after → before.Adds after →
      good after value → alsoGood after value) :
    Keeps demand before alsoGood outcome := by
  cases keeps with
  | ok kept adds isGood =>
      exact .ok kept adds (weaker _ _ kept adds isGood)
  | error kept adds allowed =>
      exact .error kept adds allowed

/-- What an outcome adds is added to every earlier state. -/
theorem after
    {earlier : CheckState}
    {outcome : EStateM.Result TypeError CheckState α}
    (keeps : Keeps demand before good outcome)
    (addsBefore : earlier.Adds before) :
    Keeps demand earlier good outcome := by
  cases keeps with
  | ok kept adds isGood =>
      exact .ok kept (addsBefore.trans adds) isGood
  | error kept adds allowed =>
      exact .error kept (addsBefore.trans adds) allowed

theorem bind
    {action : Check α}
    {next : α → Check β}
    (first : Keeps demand state good (action state))
    (second : ∀ value later, demand.states later → state.Adds later →
      good later value → Keeps demand later further (next value later)) :
    Keeps demand state further ((action >>= next) state) := by
  generalize ran : action state = outcome at first
  cases first with
  | ok kept adds isGood =>
      rw [bind_eq_of_ok ran]
      exact (second _ _ kept adds isGood).after adds
  | error kept adds allowed =>
      rw [bind_eq_of_error ran]
      exact .error kept adds allowed

/-- The result does not matter to what follows. -/
theorem discard
    {action : Check α}
    (keeps : Keeps demand state good (action state)) :
    Keeps demand state (fun _ _ => True) (Functor.discard action state) := by
  rw [Functor.discard, map_const, Function.comp_apply, ← bind_pure_comp]
  exact keeps.bind fun _ _ kept _ _ => pure kept trivial

theorem forM
    {step : α → Check PUnit}
    {items : List α}
    (kept : demand.states state)
    (steps : ∀ item ∈ items, ∀ later, demand.states later →
      state.Adds later → Keeps demand later (fun _ _ => True)
        (step item later)) :
    Keeps demand state (fun _ _ => True) (items.forM step state) := by
  induction items generalizing state with
  | nil =>
      exact pure kept trivial
  | cons item items ih =>
      rcases List.forall_mem_cons.1 steps with ⟨first, others⟩
      refine bind (first state kept (.refl state)) ?_
      intro _ middle kept adds _
      -- Later rounds may use what held before the loop, so what this round
      -- has added goes in front of what they add.
      apply ih kept
      intro item member later kept addsLater
      exact others item member later kept (adds.trans addsLater)

theorem mapM
    {step : β → Check α}
    {items : List β}
    (lasts : Lasts good)
    (kept : demand.states state)
    (steps : ∀ item ∈ items, ∀ later, demand.states later →
      state.Adds later → Keeps demand later good (step item later)) :
    Keeps demand state (fun after values => ∀ value ∈ values, good after value)
      (items.mapM step state) := by
  induction items generalizing state with
  | nil =>
      rw [List.mapM_nil]
      exact pure kept (List.forall_mem_nil _)
  | cons item items ih =>
      rcases List.forall_mem_cons.1 steps with ⟨first, others⟩
      rw [List.mapM_cons]
      refine bind (first state kept (.refl state)) ?_
      intro value middle kept adds isGood
      refine bind (ih kept ?_) ?_
      · intro item member later kept addsLater
        exact others item member later kept (adds.trans addsLater)
      · intro values later kept addsLater areGood
        exact pure kept
          (List.forall_mem_cons.2 ⟨lasts addsLater isGood, areGood⟩)

theorem foldlM
    {step : α → β → Check α}
    {items : List β}
    {value : α}
    (kept : demand.states state)
    (isGood : good state value)
    (steps : ∀ item ∈ items, ∀ value later, demand.states later →
      state.Adds later → good later value →
        Keeps demand later good (step value item later)) :
    Keeps demand state good (items.foldlM step value state) := by
  induction items generalizing state value with
  | nil =>
      exact pure kept isGood
  | cons item items ih =>
      rcases List.forall_mem_cons.1 steps with ⟨first, others⟩
      rw [List.foldlM_cons]
      refine bind (first value state kept (.refl state) isGood) ?_
      intro value middle kept adds isGood
      apply ih kept isGood
      intro item member value later kept addsLater
      exact others item member value later kept (adds.trans addsLater)

/-! ## Steps that leave the state alone -/

theorem convert
    (type : TypeRef)
    (kept : demand.states state)
    (allowed : demand.errors ⟨.unknownType type.name, type.pos⟩) :
    Keeps demand state (fun _ kind => kind = .int)
      (Check.convert type state) := by
  rw [Check.convert, Kind.ofName?]
  split_ifs
  · exact pure kept rfl
  · exact fail kept allowed

theorem declaredKind
    (decl : Decl)
    (kept : demand.states state)
    (allowed : ∀ name pos, demand.errors ⟨.unknownType name, pos⟩) :
    Keeps demand state
      (fun _ kind => kind = if decl.type.isSome then .int else .unknown)
      (Check.declaredKind decl state) := by
  rw [Check.declaredKind]
  cases decl.type with
  | none =>
      exact pure kept rfl
  | some type =>
      exact convert type kept (allowed _ _)

theorem checkArity
    {place : Pairing}
    {expected found : Nat}
    {pos : Pos}
    (kept : demand.states state)
    (allowed : demand.errors ⟨.arity place expected found, pos⟩) :
    Keeps demand state (fun _ _ => found = expected)
      (Check.checkArity place expected found pos state) := by
  rw [Check.checkArity]
  by_cases same : found = expected
  · rw [if_pos same]
    exact pure kept same
  · rw [if_neg same]
    exact fail kept allowed

/-- A look-up finds the slot of some binding. -/
theorem lookup
    {name : String}
    {pos : Pos}
    (kept : demand.states state)
    (allowed : demand.errors ⟨.undeclared name, pos⟩) :
    Keeps demand state
      (fun after slot => ∃ binding ∈ after.scope.toList,
        binding.2.slot = slot)
      (Check.lookup name pos state) := by
  rw [Check.lookup_eq, Scope.get?_eq_find?]
  cases found : state.scope.toList.find? (fun binding => binding.1 = name) with
  | none =>
      exact fail kept allowed
  | some binding =>
      exact pure kept ⟨binding, List.mem_of_find?_eq_some found, rfl⟩

/-! ## Statements and functions -/

section Statements

variable {pos : Pos}
variable {names : List String}
variable {value : Expr}
variable {slots : CheckState → Nat → Prop}

/-- An initializer, if there is one, has a slot for each name. -/
theorem initializers
    {decls : List Decl}
    {value : Option Expr}
    (lasts : Lasts slots)
    (kept : demand.states state)
    (arity : ∀ place expected found,
      demand.errors ⟨.arity place expected found, pos⟩)
    (values : ∀ initial ∈ value, ∀ later, demand.states later →
      Keeps demand later (fun after found => ∀ slot ∈ found, slots after slot)
        (Check.slotsOf initial later)) :
    Keeps demand state
      (fun after found => (∀ slot ∈ found, slots after slot) ∧
        (value.isSome = true → found.length = Check.nameCount decls))
      (Check.initializers pos decls value state) := by
  cases value with
  | none =>
      exact pure kept ⟨List.forall_mem_nil _, nofun⟩
  | some initial =>
      rw [Check.initializers]
      refine (values initial rfl state kept).bind ?_
      intro found _ kept _ areSlots
      refine (checkArity kept (arity _ _ _)).bind ?_
      intro _ _ kept adds balanced
      exact pure kept ⟨lasts.all adds areSlots, fun _ => balanced⟩

/-- Targets and values are found one after the other and then agree in pairs. -/
theorem assignStmt
    (lasts : Lasts slots)
    (kept : demand.states state)
    (arity : ∀ place expected found,
      demand.errors ⟨.arity place expected found, pos⟩)
    (targets : ∀ name later, demand.states later →
      Keeps demand later slots (Check.lookup name pos later))
    (values : ∀ later, demand.states later →
      Keeps demand later (fun after found => ∀ slot ∈ found, slots after slot)
        (Check.slotsOf value later))
    (agrees : ∀ first second later, demand.states later →
      slots later first → slots later second →
        Keeps demand later (fun _ _ => True)
          (Check.agree first second pos later)) :
    Keeps demand state (fun _ _ => True)
      (Check.assignStmt pos names value state) := by
  rw [Check.assignStmt]
  refine (mapM lasts kept fun name _ later kept _ =>
    targets name later kept).bind ?_
  intro found afterTargets kept _ areTargets
  refine (values afterTargets kept).bind ?_
  intro given _ kept addsValues areValues
  refine (checkArity kept (arity _ _ _)).bind ?_
  intro _ _ kept addsChecked _
  refine forM kept ?_
  rintro ⟨target, slot⟩ member later kept addsLater
  rcases List.of_mem_zip member with ⟨isTarget, isValue⟩
  -- The slots were found before the loop, targets before values.
  have addsAfterValues := addsChecked.trans addsLater
  have addsAfterTargets := addsValues.trans addsAfterValues
  exact agrees target slot later kept
    (lasts addsAfterTargets (areTargets target isTarget))
    (lasts addsAfterValues (areValues slot isValue))

/-- Each value agrees with a fresh slot of the kind that is promised. -/
theorem returnStmt
    (lasts : Lasts slots)
    (kept : demand.states state)
    (arity : ∀ place expected found,
      demand.errors ⟨.arity place expected found, pos⟩)
    (values : ∀ later, demand.states later →
      Keeps demand later (fun after found => ∀ slot ∈ found, slots after slot)
        (Check.slotsOf value later))
    (promised : ∀ before, demand.states before → ∀ kind ∈ before.rets,
      ∀ later, demand.states later →
        Keeps demand later slots (Check.onArena (Arena.new kind) later))
    (agrees : ∀ first second later, demand.states later →
      slots later first → slots later second →
        Keeps demand later (fun _ _ => True)
          (Check.agree first second pos later)) :
    Keeps demand state (fun _ _ => True)
      (Check.returnStmt pos value state) := by
  rw [Check.returnStmt]
  refine (values state kept).bind ?_
  intro given before kept _ areValues
  have got : (get : Check CheckState) before = .ok before before := rfl
  -- The promised kinds are read once, so it is this state that counts.
  have fresh := promised before kept
  rw [bind_eq_of_ok got]
  refine (checkArity kept (arity _ _ _)).bind ?_
  intro _ _ kept addsChecked _
  refine forM kept ?_
  rintro ⟨kind, slot⟩ member later kept addsLater
  rcases List.of_mem_zip member with ⟨isKind, isValue⟩
  refine (fresh kind isKind later kept).bind ?_
  intro expected after kept addsFresh isExpected
  have adds := (addsChecked.trans addsLater).trans addsFresh
  exact agrees expected slot after kept isExpected
    (lasts adds (areValues slot isValue))

/-- Parameters, promised kinds and statements, in this order. -/
theorem function
    {code : Function}
    (kept : demand.states state)
    (params : ∀ decl ∈ code.params, ∀ later, demand.states later →
      Keeps demand later (fun _ _ => True) (Check.param decl later))
    (unknown : ∀ name pos, demand.errors ⟨.unknownType name, pos⟩)
    (promises : ∀ kinds : List Kind, (∀ kind ∈ kinds, kind = .int) →
      ∀ later, demand.states later →
        Keeps demand later (fun _ _ => True) (Check.setRets kinds later))
    (statements : ∀ statement ∈ code.body, ∀ later, demand.states later →
      Keeps demand later (fun _ _ => True) (Check.stmt statement later)) :
    Keeps demand state (fun _ _ => True) (Check.function code state) := by
  rw [Check.function]
  refine (forM kept fun decl member later kept _ =>
    params decl member later kept).bind ?_
  intro _ _ kept _ _
  have lasts : Lasts fun _ (kind : Kind) => kind = .int :=
    fun _ _ _ _ isInt => isInt
  refine (mapM lasts kept fun type _ _ kept _ =>
    convert type kept (unknown _ _)).bind ?_
  intro kinds converted kept _ areInt
  refine (promises kinds areInt converted kept).bind ?_
  intro _ _ kept _ _
  exact forM kept fun statement member later kept _ =>
    statements statement member later kept

end Statements

end Keeps

end Sprig
