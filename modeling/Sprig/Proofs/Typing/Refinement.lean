import Sprig.Proofs.Typing.Simulation

/-!
# What the checker decides, without slots

Every step of the checker is matched with the step of the reference that does
the same to the ledger.  Only four steps touch the arena: a literal and a
promised value take a fresh slot, a declaration takes a fresh slot and owns
it, and two slots are made to agree.  The rest follows the structure of the
syntax.

The result is that slots and parents cannot be observed: the reference gives
the same names with the same kinds, or the same error.
-/

namespace Sprig

variable {world : World}
variable {state : CheckState}
variable {ledger : Ledger}

/-! ## Operands and their slots -/

/-- What is known of an operand is the kind of its slot. -/
theorem Simulates.kindOf_eq
    {slot : Nat}
    {operand : Operand}
    (simulates : Simulates world state ledger)
    (denotes : world.Denotes slot operand) :
    slot < world.arena.size ∧
      world.arena.kindOf slot =
        if ledger.isInt operand then .int else .unknown := by
  cases operand with
  | literal =>
      exact denotes
  | entry index =>
      have owned : world.slots[index]? = some slot := denotes
      refine ⟨simulates.inside slot (List.mem_of_getElem? owned), ?_⟩
      have kinds := congrArg (·[index]?) simulates.kinds_eq
      simp only [List.getElem?_map, owned, Option.map_some] at kinds
      rcases Option.map_eq_some_iff.1 kinds.symm with ⟨entry, found, same⟩
      rw [← same, Ledger.isInt, found]
      rfl

/-- A settled entry differs from the old one in what is known. -/
theorem getElem?_settle
    (ledger : Ledger)
    (settled index : Nat) :
    (ledger.settle (.entry settled)).entries[index]? =
      ledger.entries[index]?.map fun entry =>
        if settled = index then { entry with known := true } else entry := by
  show (ledger.entries.modify settled _)[index]? = _
  rw [List.getElem?_modify]
  cases ledger.entries[index]? with
  | none =>
      rfl
  | some entry =>
      split <;> rfl

/-- Nothing is learnt of an operand that is known. -/
theorem Ledger.settle_of_isInt
    {operand : Operand}
    (known : ledger.isInt operand = true) :
    ledger.settle operand = ledger := by
  cases operand with
  | literal =>
      rfl
  | entry settled =>
      have same : (ledger.settle (.entry settled)).entries =
          ledger.entries := by
        apply List.ext_getElem?
        intro index
        rw [getElem?_settle]
        cases found : ledger.entries[index]? with
        | none =>
            rfl
        | some entry =>
            by_cases here : settled = index
            · subst here
              rw [isInt, found, Option.any_some] at known
              rw [Option.map_some, if_pos rfl, ← known]
            · rw [Option.map_some, if_neg here]
      exact congrArg (Ledger.mk · ledger.promised) same

/-! ## The steps that touch the arena -/

/-- A slot that nobody owns. -/
theorem Simulates.push
    (simulates : Simulates world state ledger)
    (kind : Kind) :
    Simulates ⟨world.slots, world.arena.push kind⟩
      { state with arena := world.arena.push kind } ledger where
  arena_eq := rfl
  tidy := simulates.tidy.push kind
  length_eq := simulates.length_eq
  scope_eq := simulates.scope_eq
  distinct := simulates.distinct
  inside := by
    intro slot owned
    rw [Arena.size_push]
    exact Nat.lt_succ_of_lt (simulates.inside slot owned)
  kinds_eq := by
    rw [← simulates.kinds_eq]
    apply List.map_congr_left
    intro slot owned
    exact simulates.tidy.kindOf_push_of_lt kind (simulates.inside slot owned)
  rets_eq := simulates.rets_eq

theorem World.grows_push
    (tidy : world.arena.Tidy)
    (kind : Kind)
    (added : List Nat) :
    world.Grows ⟨world.slots ++ added, world.arena.push kind⟩ where
  slots := List.prefix_append _ _
  size_le := by
    rw [Arena.size_push]
    exact Nat.le_succ _
  int := by
    intro slot inside isInt
    rw [tidy.kindOf_push_of_lt kind inside, isInt]

/-- A fresh slot of kind `int` is as good as a literal. -/
theorem refines_literal :
    Refines world (Check.onArena (Arena.new .int)) (pure .literal)
      World.Denotes := by
  intro state ledger simulates
  have fresh : Check.onArena (Arena.new .int) state =
      .ok world.arena.size
        { state with arena := world.arena.push .int } := by
    rw [← simulates.arena_eq]
    rfl
  rw [fresh]
  refine .ok ?_ (simulates.push .int) ?_
  · have grows := World.grows_push simulates.tidy .int []
    rwa [List.append_nil] at grows
  · exact ⟨by simp, simulates.tidy.kindOf_push_self .int⟩

/-- A fresh slot and a fresh entry belong together. -/
theorem refines_declare
    (name : String)
    (pos : Pos)
    (known : Bool) :
    Refines world
      (Check.declare name (if known then .int else .unknown) pos)
      (Reference.declare name pos known)
      World.Denotes := by
  intro state ledger simulates
  generalize kindEq : (if known then Kind.int else Kind.unknown) = kind
  have declared : Check.declare name kind pos state =
      .ok world.arena.size
        { state with
          arena := world.arena.push kind
          scope := state.scope.insert name ⟨world.arena.size, pos⟩ } := by
    rw [← simulates.arena_eq]
    rfl
  have entered : Reference.declare name pos known ledger =
      .ok (.entry ledger.entries.length)
        { ledger with entries := ledger.entries ++ [⟨name, pos, known⟩] } :=
    rfl
  have pushed := simulates.push kind
  rw [declared, entered]
  refine .ok (World.grows_push simulates.tidy kind [world.arena.size]) ?_ ?_
  · exact
      { arena_eq := rfl
        tidy := pushed.tidy
        length_eq := by
          simp [simulates.length_eq]
        scope_eq := by
          rw [Scope.toList_insert, List.reverse_cons, simulates.scope_eq,
            List.zipWith_append simulates.length_eq]
          rfl
        distinct := by
          rw [List.nodup_append]
          refine ⟨simulates.distinct, List.pairwise_singleton _ _, ?_⟩
          intro slot owned fresh member same
          rw [List.mem_singleton] at member
          exact Nat.ne_of_lt (simulates.inside slot owned)
            (same.trans member)
        inside := by
          intro slot owned
          rcases List.mem_append.1 owned with old | fresh
          · exact pushed.inside slot old
          · rw [List.mem_singleton.1 fresh, Arena.size_push]
            exact Nat.lt_succ_self _
        kinds_eq := by
          rw [List.map_append, List.map_append, pushed.kinds_eq,
            List.map_singleton, simulates.tidy.kindOf_push_self, ← kindEq]
          rfl
        rets_eq := simulates.rets_eq }
  · show (world.slots ++ [world.arena.size])[ledger.entries.length]? = _
    rw [simulates.length_eq, List.getElem?_concat_length]

/-- One owned slot becomes known, and so does its entry. -/
theorem Simulates.settle
    {after : Arena}
    {slot index : Nat}
    (simulates : Simulates world state ledger)
    (owned : world.slots[index]? = some slot)
    (settles : Arena.Settles world.arena after slot .int) :
    Simulates ⟨world.slots, after⟩ { state with arena := after }
      (ledger.settle (.entry index)) where
  arena_eq := rfl
  tidy := settles.tidy
  length_eq := by
    rw [← simulates.length_eq]
    exact List.length_modify _ _ _
  scope_eq := by
    rw [simulates.scope_eq]
    apply List.ext_getElem?
    intro other
    rw [List.getElem?_zipWith, List.getElem?_zipWith, getElem?_settle]
    cases ledger.entries[other]? with
    | none =>
        rfl
    | some entry =>
        cases world.slots[other]? with
        | none =>
            rfl
        | some otherSlot =>
            simp only [Option.map_some]
            split <;> rfl
  distinct := simulates.distinct
  inside := by
    intro other member
    rw [settles.size_eq]
    exact simulates.inside other member
  kinds_eq := by
    apply List.ext_getElem?
    intro other
    have kinds := congrArg (·[other]?) simulates.kinds_eq
    simp only [List.getElem?_map] at kinds ⊢
    rw [getElem?_settle, Option.map_map]
    cases found : world.slots[other]? with
    | none =>
        rw [found, Option.map_none, eq_comm, Option.map_eq_none_iff] at kinds
        rw [kinds]
        rfl
    | some otherSlot =>
        rw [found, Option.map_some, eq_comm, Option.map_eq_some_iff] at kinds
        rcases kinds with ⟨entry, present, same⟩
        rw [present, Option.map_some, Option.map_some]
        by_cases here : index = other
        · subst here
          rw [owned] at found
          cases found
          rw [settles.kindOf_self, Function.comp_apply, if_pos rfl]
          rfl
        · have different : otherSlot ≠ slot := by
            rintro rfl
            rcases List.getElem?_eq_some_iff.1 owned with ⟨present, -⟩
            exact here ((List.getElem?_inj present simulates.distinct).1
              (owned.trans found.symm))
          have inside := simulates.inside _ (List.mem_of_getElem? found)
          rw [settles.kindOf_other _ inside different, ← same,
            Function.comp_apply, if_neg here]
  rets_eq := simulates.rets_eq

theorem World.grows_settle
    {after : Arena}
    {slot : Nat}
    (settles : Arena.Settles world.arena after slot .int) :
    world.Grows ⟨world.slots, after⟩ where
  slots := List.prefix_rfl
  size_le := Nat.le_of_eq settles.size_eq.symm
  int := by
    intro other inside isInt
    by_cases same : other = slot
    · rw [same, settles.kindOf_self]
    · rw [settles.kindOf_other other inside same, isInt]

/-- A slot made an `int` on account of another, and its operand likewise. -/
theorem Simulates.matches_settle
    {after : Arena}
    {slot : Nat}
    {operand : Operand}
    (simulates : Simulates world state ledger)
    (denotes : world.Denotes slot operand)
    (unknown : ledger.isInt operand = false)
    (settles : Arena.Settles world.arena after slot .int) :
    Matches world (fun _ _ _ => True)
      (.ok () { state with arena := after })
      (.ok () (ledger.settle operand)) := by
  cases operand with
  | literal =>
      cases unknown
  | entry index =>
      exact .ok (World.grows_settle settles)
        (simulates.settle denotes settles) trivial

/-- Two slots made to agree, and their operands paired. -/
theorem refines_agree
    {firstSlot secondSlot : Nat}
    {first second : Operand}
    (denotesFirst : world.Denotes firstSlot first)
    (denotesSecond : world.Denotes secondSlot second)
    (site : Pos) :
    Refines world (Check.agree firstSlot secondSlot site)
      (Reference.pair first second) fun _ _ _ => True := by
  intro state ledger simulates
  rcases simulates.kindOf_eq denotesFirst with ⟨firstInside, firstKind⟩
  rcases simulates.kindOf_eq denotesSecond with ⟨secondInside, secondKind⟩
  have tidy := simulates.tidy
  have agreed {after : Arena}
      (unified : Arena.unify firstSlot secondSlot (some site) world.arena =
        .ok () after) :
      Check.agree firstSlot secondSlot site state =
        .ok () { state with arena := after } := by
    rw [Check.agree, Check.onArena, simulates.arena_eq, unified]
  have unchanged : { state with arena := world.arena } = state := by
    rw [← simulates.arena_eq]
  have paired : Reference.pair first second ledger =
      .ok () (ledger.pair first second) := rfl
  rw [paired, Ledger.pair]
  cases knownFirst : ledger.isInt first with
  | true =>
      rw [knownFirst, if_pos rfl] at firstKind
      rw [if_pos rfl]
      cases knownSecond : ledger.isInt second with
      | true =>
          rw [knownSecond, if_pos rfl, ← firstKind] at secondKind
          rw [agreed (tidy.unify_of_eq firstInside secondInside
            secondKind.symm _), unchanged,
            Ledger.settle_of_isInt knownSecond]
          exact .ok (.refl world) simulates trivial
      | false =>
          rw [knownSecond, if_neg Bool.false_ne_true] at secondKind
          rcases
              tidy.unify_of_unknown_right firstInside secondInside
                (by rw [firstKind]; rfl) secondKind (some site) with
            ⟨after, unified, settles⟩
          rw [firstKind] at settles
          rw [agreed unified]
          exact simulates.matches_settle denotesSecond knownSecond settles
  | false =>
      rw [knownFirst, if_neg Bool.false_ne_true] at firstKind
      rw [if_neg Bool.false_ne_true]
      cases knownSecond : ledger.isInt second with
      | true =>
          rw [knownSecond, if_pos rfl] at secondKind
          rcases
              tidy.unify_of_unknown_left firstInside secondInside firstKind
                (by rw [secondKind]; rfl) (some site) with
            ⟨after, unified, settles⟩
          rw [secondKind] at settles
          rw [agreed unified, if_pos rfl]
          exact simulates.matches_settle denotesFirst knownFirst settles
      | false =>
          rw [knownSecond, if_neg Bool.false_ne_true, ← firstKind]
            at secondKind
          rw [agreed (tidy.unify_of_eq firstInside secondInside
            secondKind.symm _), unchanged, if_neg Bool.false_ne_true]
          exact .ok (.refl world) simulates trivial

/-! ## Names -/

/-- The newest binding of a name, by entry and by slot. -/
theorem newest?_spec
    {entries : List Entry}
    {slots : List Nat}
    (sameLength : entries.length = slots.length)
    (name : String) :
    match Reference.newest? name entries with
    | some index =>
        ∃ slot pos,
          slots[index]? = some slot ∧
            (List.zipWith bound entries slots).reverse.find?
              (fun binding => binding.1 = name) =
                some (name, ⟨slot, pos⟩)
    | none =>
        (List.zipWith bound entries slots).reverse.find?
          (fun binding => binding.1 = name) = none := by
  induction entries generalizing slots with
  | nil =>
      rfl
  | cons entry entries ih =>
      cases slots with
      | nil =>
          cases sameLength
      | cons slot slots =>
          have later := ih (Nat.succ.inj sameLength)
          rw [List.zipWith_cons_cons, List.reverse_cons, List.find?_append,
            Reference.newest?]
          cases found : Reference.newest? name entries with
          | some index =>
              rw [found] at later
              rcases later with ⟨newer, pos, owned, isBound⟩
              refine ⟨newer, pos, owned, ?_⟩
              rw [isBound, Option.some_or]
          | none =>
              rw [found] at later
              rw [later, Option.none_or, List.find?_singleton]
              by_cases same : entry.name = name
              · subst same
                simp only [if_true]
                exact ⟨slot, entry.pos, rfl, by simp [bound]⟩
              · simp only [if_neg same]
                simp [bound, same]

/-- A name stands for its newest binding, or for none. -/
theorem refines_lookup
    (name : String)
    (pos : Pos) :
    Refines world (Check.lookup name pos) (Reference.lookup name pos)
      World.Denotes := by
  intro state ledger simulates
  have newest := newest?_spec simulates.length_eq name
  rw [← simulates.scope_eq, List.reverse_reverse] at newest
  have found := state.scope.get?_eq_find? name
  have got : (get : Check CheckState) state = .ok state state := rfl
  have read : (get : Reference Ledger) ledger = .ok ledger ledger := rfl
  rw [Check.lookup, Reference.lookup, bind_eq_of_ok got, bind_eq_of_ok read]
  cases index : Reference.newest? name ledger.entries with
  | some index =>
      rw [index] at newest
      rcases newest with ⟨slot, declaredAt, owned, isBound⟩
      rw [isBound, Option.map_some] at found
      rw [found]
      exact .ok (.refl world) simulates owned
  | none =>
      rw [index] at newest
      rw [newest, Option.map_none] at found
      rw [found]
      exact .error _

/-! ## Values and annotations -/

theorem refines_operand (value : Expr) :
    Refines world (Check.slotOf value) (Reference.operand value)
      World.Denotes := by
  cases value with
  | intLit pos text =>
      exact refines_literal
  | var pos name =>
      exact refines_lookup name pos
  | tuple pos elements =>
      exact Refines.throw _
  | bare pos =>
      exact Refines.throw _

theorem refines_operands (value : Expr) :
    Refines world (Check.slotsOf value) (Reference.operands value)
      World.DenoteAll := by
  rw [Reference.operands_eq]
  exact Refines.mapM persists_denotes value.components fun _ => refines_operand

theorem refines_arity
    (place : Pairing)
    (expected found : Nat)
    (pos : Pos) :
    Refines world (Check.checkArity place expected found pos)
      (Reference.arity place expected found pos)
      fun _ _ _ => found = expected := by
  rw [Check.checkArity, Reference.arity]
  by_cases same : found = expected
  · rw [if_pos same, if_pos same]
    exact Refines.pure same
  · rw [if_neg same, if_neg same]
    exact Refines.throw _

theorem refines_intType (type : TypeRef) :
    Refines world (Check.convert type) (Reference.intType type)
      fun _ kind _ => kind = .int := by
  rw [Check.convert, Reference.intType]
  by_cases isInt : type.name = "int"
  · have named : Kind.ofName? type.name = some .int := if_pos isInt
    rw [named, if_pos isInt]
    exact Refines.pure rfl
  · have unnamed : Kind.ofName? type.name = none := if_neg isInt
    rw [unnamed, if_neg isInt]
    exact Refines.throw _

theorem refines_annotated (decl : Decl) :
    Refines world (Check.declaredKind decl) (Reference.annotated decl)
      fun _ kind known => kind = if known then .int else .unknown := by
  rw [Check.declaredKind, Reference.annotated]
  cases decl.type with
  | none =>
      exact Refines.pure rfl
  | some type =>
      show Refines world (Check.convert type) _ _
      rw [← bind_pure (Check.convert type)]
      apply Refines.bind (refines_intType type)
      intro later _ kind _ isInt
      exact Refines.pure isInt

/-! ## Declarations -/

theorem refines_bindName
    {values : List Nat}
    {operands : List Operand}
    (denote : world.DenoteAll values operands)
    (name : String)
    (known : Bool)
    (pos site : Pos) :
    Refines world
      (Check.bindName name (if known then .int else .unknown) pos site values)
      (Reference.bindName name pos known operands)
      World.DenoteAll := by
  rw [Check.bindName, Reference.bindName]
  apply Refines.bind (refines_declare name pos known)
  intro middle grows slot binding denotes
  cases denote with
  | nil =>
      exact Refines.pure .nil
  | cons first others =>
      apply Refines.bind
        (refines_agree denotes (grows.denotes first) site)
      intro later further _ _ _
      exact Refines.pure
        (persists_denoteAll (grows.trans further) others)

theorem refines_bindDecl
    {values : List Nat}
    {operands : List Operand}
    (denote : world.DenoteAll values operands)
    (decl : Decl)
    (site : Pos) :
    Refines world (Check.bindDecl decl site values)
      (Reference.bindDecl decl operands) World.DenoteAll := by
  rw [Check.bindDecl, Reference.bindDecl]
  apply Refines.bind (refines_annotated decl)
  rintro middle grows _ known rfl
  refine Refines.foldlM decl.idents ?_ (persists_denoteAll grows denote)
  intro later name values operands denote
  exact refines_bindName denote name known decl.pos site

theorem foldl_idents_length (decls : List Decl) (counted : Nat) :
    decls.foldl (fun count decl => count + decl.idents.length) counted =
      counted + (decls.flatMap Decl.idents).length := by
  induction decls generalizing counted with
  | nil =>
      rfl
  | cons decl decls ih =>
      rw [List.foldl_cons, ih, List.flatMap_cons, List.length_append,
        Nat.add_assoc]

/-- Both checkers count the names of declarations alike. -/
theorem nameCount_eq (decls : List Decl) :
    Check.nameCount decls = (decls.flatMap Decl.idents).length := by
  rw [Check.nameCount, foldl_idents_length, Nat.zero_add]

theorem refines_initializers
    (pos : Pos)
    (decls : List Decl)
    (value : Option Expr) :
    Refines world (Check.initializers pos decls value)
      (Reference.initializers pos decls value) World.DenoteAll := by
  cases value with
  | none =>
      exact Refines.pure .nil
  | some value =>
      rw [Check.initializers, Reference.initializers]
      apply Refines.bind (refines_operands value)
      intro middle _ values operands denote
      rw [nameCount_eq, denote.length_eq]
      apply Refines.bind (refines_arity _ _ _ _)
      intro later grows _ _ _
      exact Refines.pure (persists_denoteAll grows denote)

theorem refines_declStmt
    (pos : Pos)
    (decls : List Decl)
    (value : Option Expr) :
    Refines world (Check.declStmt pos decls value)
      (Reference.declStmt pos decls value) fun _ _ _ => True := by
  rw [Check.declStmt, Reference.declStmt]
  apply Refines.bind (refines_initializers pos decls value)
  intro middle _ values operands denote
  refine Refines.discard (Refines.foldlM decls ?_ denote)
  intro later decl values operands denote
  exact refines_bindDecl denote decl pos

/-! ## Assignments and returns -/

/-- Lists that correspond item by item do so in pairs. -/
theorem forall₂_zip
    {α β γ δ : Type}
    {left : α → β → Prop}
    {right : γ → δ → Prop}
    {firsts : List α}
    {others : List β}
    {seconds : List γ}
    {rest : List δ}
    (lefts : List.Forall₂ left firsts others)
    (rights : List.Forall₂ right seconds rest) :
    List.Forall₂ (fun pair other => left pair.1 other.1 ∧ right pair.2 other.2)
      (firsts.zip seconds) (others.zip rest) := by
  induction lefts generalizing seconds rest with
  | nil =>
      exact .nil
  | cons first _ ih =>
      cases rights with
      | nil =>
          exact .nil
      | cons second rights =>
          exact .cons ⟨first, second⟩ (ih rights)

/-- A target and a value, and the operands that they hold. -/
def World.DenotePair
    (world : World)
    (slots : Nat × Nat)
    (operands : Operand × Operand) : Prop :=
  world.Denotes slots.1 operands.1 ∧ world.Denotes slots.2 operands.2

theorem persists_denotePair : Persists World.DenotePair :=
  fun _ _ grows _ _ pair =>
    ⟨grows.denotes pair.1, grows.denotes pair.2⟩

theorem refines_assignStmt
    (pos : Pos)
    (names : List String)
    (value : Expr) :
    Refines world (Check.assignStmt pos names value)
      (Reference.assignStmt pos names value) fun _ _ _ => True := by
  rw [Check.assignStmt, Reference.assignStmt]
  apply Refines.bind
    (Refines.mapM persists_denotes names fun _ name =>
      refines_lookup name pos)
  intro withTargets _ targets targetOperands denoteTargets
  apply Refines.bind (refines_operands value)
  intro withValues grows values operands denote
  rw [denoteTargets.length_eq, denote.length_eq]
  apply Refines.bind (refines_arity _ _ _ _)
  intro checked further _ _ _
  have targetsLater :=
    persists_denoteAll (grows.trans further) denoteTargets
  have valuesLater := persists_denoteAll further denote
  apply Refines.forM persists_denotePair
    (forall₂_zip targetsLater valuesLater)
  intro later slots operands pair
  exact refines_agree pair.1 pair.2 pos

/-- A promised kind with a value, and the operand of the value. -/
def World.Promises
    (world : World)
    (promised : Kind × Nat)
    (operand : Operand) : Prop :=
  promised.1 = .int ∧ world.Denotes promised.2 operand

theorem persists_promises : Persists World.Promises :=
  fun _ _ grows _ _ promises => ⟨promises.1, grows.denotes promises.2⟩

theorem World.DenoteAll.promises
    {values : List Nat}
    {operands : List Operand}
    (denote : world.DenoteAll values operands) :
    List.Forall₂ world.Promises
      ((List.replicate values.length .int).zip values) operands := by
  induction denote with
  | nil =>
      exact .nil
  | cons first _ ih =>
      exact .cons ⟨rfl, first⟩ ih

/-- What both checkers keep of the promised values. -/
theorem refines_get :
    Refines world get get Simulates :=
  fun _ _ simulates => .ok (.refl world) simulates simulates

theorem refines_returnStmt (pos : Pos) (value : Expr) :
    Refines world (Check.returnStmt pos value)
      (Reference.returnStmt pos value) fun _ _ _ => True := by
  rw [Check.returnStmt, Reference.returnStmt]
  apply Refines.bind (refines_operands value)
  intro withValues _ values operands denote
  apply Refines.bind refines_get
  intro read grows state ledger simulates
  dsimp only
  rw [simulates.rets_eq, List.length_replicate, ← denote.length_eq]
  apply Refines.bind (refines_arity _ _ _ _)
  intro checked further _ _ enough
  rw [← enough]
  apply Refines.forM persists_promises
    (persists_denoteAll (grows.trans further) denote).promises
  rintro later ⟨_, slot⟩ operand ⟨rfl, denotes⟩
  show Refines later _
    (pure .literal >>= fun first => Reference.pair first operand) _
  apply Refines.bind refines_literal
  intro fresh growsOn expected first isLiteral
  exact refines_agree isLiteral (growsOn.denotes denotes) pos

/-! ## Functions -/

theorem refines_stmt (statement : Stmt) :
    Refines world (Check.stmt statement) (Reference.stmt statement)
      fun _ _ _ => True := by
  cases statement with
  | assign pos names value =>
      exact refines_assignStmt pos names value
  | decl pos decls value =>
      exact refines_declStmt pos decls value
  | ret pos value =>
      exact refines_returnStmt pos value
  | bare pos =>
      exact Refines.throw _

theorem refines_param (decl : Decl) :
    Refines world (Check.param decl) (Reference.param decl)
      fun _ _ _ => True := by
  rw [Check.param, Reference.param]
  apply Refines.bind (refines_annotated decl)
  rintro middle grows _ known rfl
  apply Refines.forM_same decl.idents
  intro later name
  exact Refines.discard (refines_declare name decl.pos known)

theorem refines_intTypes (types : List TypeRef) :
    Refines world (types.mapM Check.convert)
      (types.forM Reference.intType)
      fun _ kinds _ => kinds = List.replicate types.length .int := by
  induction types generalizing world with
  | nil =>
      rw [List.mapM_nil]
      exact Refines.pure rfl
  | cons type types ih =>
      rw [List.mapM_cons]
      apply Refines.bind (refines_intType type)
      rintro middle _ kind _ rfl
      show Refines middle _ (types.forM Reference.intType) _
      rw [← bind_pure (types.forM Reference.intType)]
      apply Refines.bind ih
      rintro later _ kinds _ rfl
      exact Refines.pure rfl

/-- From now on as many values are promised as types were written. -/
theorem refines_setRets (count : Nat) :
    Refines world (Check.setRets (List.replicate count .int))
      (modify fun ledger => { ledger with promised := count })
      fun _ _ _ => True := by
  intro state ledger simulates
  exact .ok (.refl world) { simulates with rets_eq := rfl } trivial

theorem refines_function (function : Function) :
    Refines world (Check.function function) (Reference.function function)
      fun _ _ _ => True := by
  rw [Check.function, Reference.function]
  apply Refines.bind
    (Refines.forM_same function.params fun _ => refines_param)
  intro afterParams _ _ _ _
  apply Refines.bind (refines_intTypes function.rets)
  rintro afterRets _ _ _ rfl
  apply Refines.bind (refines_setRets function.rets.length)
  intro promised _ _ _ _
  exact Refines.forM_same function.body fun _ => refines_stmt

/-! ## Visible names -/

/-- Entries and slots of the visible names, in the order of declaration. -/
def visiblePairs (ledger : Ledger) (world : World) : List (Entry × Nat) :=
  unshadowed (fun pair => pair.1.name) (ledger.entries.zip world.slots)

namespace Simulates

theorem visible_eq (simulates : Simulates world state ledger) :
    state.scope.visible =
      (visiblePairs ledger world).map fun pair => bound pair.1 pair.2 := by
  have pairs : List.zipWith bound ledger.entries world.slots =
      (ledger.entries.zip world.slots).map
        fun pair => bound pair.1 pair.2 := by
    rw [List.zip_eq_zipWith, List.map_zipWith]
  rw [Scope.visible_eq_unshadowed, simulates.scope_eq, pairs, unshadowed_map]
  rfl

theorem entries_eq (simulates : Simulates world state ledger) :
    unshadowed Entry.name ledger.entries =
      (visiblePairs ledger world).map Prod.fst := by
  have entries : ledger.entries =
      (ledger.entries.zip world.slots).map Prod.fst :=
    (List.map_fst_zip (Nat.le_of_eq simulates.length_eq)).symm
  rw [entries, unshadowed_map]
  rfl

/-- The slot of a visible name has the kind of its entry. -/
theorem kindOf_visible
    {pair : Entry × Nat}
    (simulates : Simulates world state ledger)
    (member : pair ∈ visiblePairs ledger world) :
    pair.2 < world.arena.size ∧
      world.arena.kindOf pair.2 = pair.1.kind := by
  rcases List.mem_iff_getElem?.1 (unshadowed_subset _ _ _ member) with
    ⟨index, found⟩
  rcases List.getElem?_zip_eq_some.1 found with ⟨entry, owned⟩
  refine ⟨simulates.inside _ (List.mem_of_getElem? owned), ?_⟩
  have kinds := congrArg (·[index]?) simulates.kinds_eq
  simp only [List.getElem?_map, entry, owned, Option.map_some] at kinds
  exact Option.some.inj kinds

theorem kinds_eq_ledger
    (simulates : Simulates world state ledger)
    (function : Function) :
    Checked.kinds ⟨function, state.scope, state.arena⟩ = ledger.kinds := by
  rw [Checked.kinds, Ledger.kinds, simulates.visible_eq, simulates.entries_eq,
    List.map_map, List.map_map]
  apply List.map_congr_left
  intro pair member
  rcases simulates.kindOf_visible member with ⟨-, kind⟩
  show (pair.1.name, state.arena.kindOf pair.2) = (pair.1.name, pair.1.kind)
  rw [simulates.arena_eq, kind]

end Simulates

/-- One visible name is passed, or is the fault, and nothing changes. -/
theorem refines_known
    {entry : Entry}
    {slot : Nat}
    (inside : slot < world.arena.size)
    (kind : world.arena.kindOf slot = entry.kind) :
    Refines world
      (do
        let kind ← Check.onArena (Arena.get slot)
        if kind.isConcrete then
          return ()
        else
          Check.fail (.unresolved entry.name) entry.pos)
      (if entry.known then
        return ()
      else
        throw ⟨.unresolved entry.name, entry.pos⟩)
      fun later _ _ => later = world := by
  intro state ledger simulates
  have got : Check.onArena (Arena.get slot) state = .ok entry.kind state := by
    rw [Check.onArena, simulates.arena_eq, simulates.tidy.get_eq inside, kind,
      ← simulates.arena_eq]
  rw [bind_eq_of_ok got, Entry.kind]
  cases entry.known with
  | true =>
      exact .ok (.refl world) simulates rfl
  | false =>
      exact .error _

/-- The first visible name without a kind is the fault on both sides. -/
theorem refines_resolved :
    Refines world Check.resolved Reference.resolved fun _ _ _ => True := by
  rw [Check.resolved, Reference.resolved]
  apply Refines.bind refines_get
  intro read _ state ledger simulates
  dsimp only
  rw [simulates.visible_eq, simulates.entries_eq]
  have known : ∀ pair ∈ visiblePairs ledger read,
      pair.2 < read.arena.size ∧ read.arena.kindOf pair.2 = pair.1.kind :=
    fun _ member => simulates.kindOf_visible member
  generalize visiblePairs ledger read = pairs at known
  induction pairs with
  | nil =>
      exact Refines.pure trivial
  | cons pair pairs ih =>
      rcases List.forall_mem_cons.1 known with ⟨⟨inside, kind⟩, known⟩
      apply Refines.bind (refines_known inside kind)
      rintro _ _ _ _ rfl
      exact ih known

theorem refines_program (function : Function) (allowUnresolved : Bool) :
    Refines world (Check.program function allowUnresolved)
      (Reference.program function allowUnresolved) fun _ _ _ => True := by
  rw [Check.program, Reference.program]
  apply Refines.bind (refines_function function)
  intro checked _ _ _ _
  cases allowUnresolved with
  | true =>
      exact Refines.pure trivial
  | false =>
      exact refines_resolved

/-- Before anything is declared the two checkers agree. -/
theorem simulates_initial : Simulates ⟨[], .empty⟩ .initial .initial where
  arena_eq := rfl
  tidy := Arena.tidy_empty
  length_eq := rfl
  scope_eq := rfl
  distinct := List.nodup_nil
  inside := List.forall_mem_nil _
  kinds_eq := rfl
  rets_eq := rfl

/-- From their starts both checkers come to outcomes that match. -/
theorem matches_program (function : Function) (allowUnresolved : Bool) :
    Matches ⟨[], .empty⟩ (fun _ _ _ => True)
      (Check.program function allowUnresolved .initial)
      (Reference.program function allowUnresolved .initial) :=
  refines_program function allowUnresolved _ _ simulates_initial

/--
For every tree, whatever its shape, the checker and the reference give the
same visible names with the same kinds in the same order, or the same error.
-/
theorem check_eq_reference (function : Function) (allowUnresolved : Bool) :
    (function.check allowUnresolved).map Checked.kinds =
      (Reference.check function allowUnresolved).map Ledger.kinds := by
  have outcome := matches_program function allowUnresolved
  rw [Function.check, Reference.check]
  generalize Check.program function allowUnresolved .initial = result
    at outcome
  generalize Reference.program function allowUnresolved .initial = answer
    at outcome
  cases outcome with
  | ok grows simulates _ =>
      exact congrArg Except.ok (simulates.kinds_eq_ledger function)
  | error error =>
      rfl

/-- Two unknown names are not tied together when they are paired. -/
example :
    (Function.check
      ⟨.nowhere, "f", [⟨.nowhere, ["x"], none⟩], [],
        [ .decl .nowhere [⟨.nowhere, ["y"], none⟩] (some (.var .nowhere "x")),
          .assign .nowhere ["x"] (.intLit .nowhere "1") ]⟩
      true).map Checked.kinds = .ok [("x", .int), ("y", .unknown)] :=
  rfl

end Sprig
