import Sprig.Proofs.Typing.Tidy

/-!
# An arena is a flat store of kinds

A flat store keeps one kind for each slot and knows nothing of roots.  A new
slot appends a kind, and two slots that are made to agree change the store in
one place only: where one kind is unknown and the other is concrete, the
concrete one is written over the unknown one.

An arena that starts empty and takes any calls on its own slots, those that
fail among them, shows exactly the kinds of the flat store that takes the same
calls.  The reason is the shape of the forest.  A slot of unknown kind is alone
in its class, so that placing it under another root drags no slot along, and
every slot is directly below its root, so that looking a root up never
rewrites a parent.
-/

namespace Sprig

/-! ## Calls -/

/-- A call on an arena. -/
inductive ArenaCall where
  | new (kind : Kind)
  | find (slot : Nat)
  | get (slot : Nat)
  | unify (first second : Nat) (site : Option Pos)
  deriving DecidableEq, Repr

namespace ArenaCall

/-- The call as an action whose result is dropped. -/
def perform : ArenaCall → ArenaM Unit
  | new kind => discard (Arena.new kind)
  | find slot => discard (Arena.find slot)
  | get slot => discard (Arena.get slot)
  | unify first second site => Arena.unify first second site

/-- Every slot that a call names lies below a bound. -/
def InRange (size : Nat) : ArenaCall → Prop
  | new _ => True
  | find slot => slot < size
  | get slot => slot < size
  | unify first second _ => first < size ∧ second < size

/-- The number of slots after a call. -/
def sizeAfter (size : Nat) : ArenaCall → Nat
  | new _ => size + 1
  | find _ => size
  | get _ => size
  | unify _ _ _ => size

/-- Each of a sequence of calls names slots that exist by then. -/
def AllInRange : (size : Nat) → List ArenaCall → Prop
  | _, [] => True
  | size, call :: calls =>
      call.InRange size ∧ AllInRange (call.sizeAfter size) calls

instance (size : Nat) : DecidablePred (InRange size)
  | new _ => isTrue trivial
  | find _ => inferInstanceAs (Decidable (_ < _))
  | get _ => inferInstanceAs (Decidable (_ < _))
  | unify _ _ _ => inferInstanceAs (Decidable (_ ∧ _))

/-- Whether a sequence of calls stays in range, decided call by call. -/
def decideAllInRange :
    (size : Nat) → (calls : List ArenaCall) → Decidable (AllInRange size calls)
  | _, [] => isTrue trivial
  | size, call :: calls =>
      have := decideAllInRange (call.sizeAfter size) calls
      inferInstanceAs (Decidable (_ ∧ _))

instance (size : Nat) : DecidablePred (AllInRange size) :=
  decideAllInRange size

end ArenaCall

/-- The arena after a call, whether the call fails or not. -/
def Arena.after (arena : Arena) (call : ArenaCall) : Arena :=
  finalState (call.perform arena)

/-- The arena after a sequence of calls on the empty one. -/
def Arena.afterAll (calls : List ArenaCall) : Arena :=
  calls.foldl Arena.after .empty

/-! ## Flat stores -/

/-- One kind for each slot. -/
abbrev FlatStore := Array Kind

namespace FlatStore

/-- The kind of a slot; nothing is known of one outside the store. -/
def kindOf (store : FlatStore) (slot : Nat) : Kind :=
  store[slot]?.getD .unknown

/-- A concrete kind is written over an unknown one. -/
def unify (store : FlatStore) (first second : Nat) : FlatStore :=
  match (store.kindOf first).isConcrete, (store.kindOf second).isConcrete with
  | false, true => store.setIfInBounds first (store.kindOf second)
  | true, false => store.setIfInBounds second (store.kindOf first)
  | false, false => store
  | true, true => store

/-- Two slots have concrete kinds that differ. -/
def Clash (store : FlatStore) (first second : Nat) : Prop :=
  (store.kindOf first).isConcrete = true ∧
    (store.kindOf second).isConcrete = true ∧
    store.kindOf first ≠ store.kindOf second

instance (store : FlatStore) (first second : Nat) :
    Decidable (store.Clash first second) :=
  inferInstanceAs (Decidable (_ ∧ _ ∧ _))

/-- The store after a call. -/
def after (store : FlatStore) : ArenaCall → FlatStore
  | .new kind => store.push kind
  | .find _ => store
  | .get _ => store
  | .unify first second _ => store.unify first second

/-- The store after a sequence of calls on the empty one. -/
def afterAll (calls : List ArenaCall) : FlatStore :=
  calls.foldl after #[]

variable {store : FlatStore}
variable {slot first second : Nat}

theorem kindOf_push_self (kind : Kind) :
    kindOf (store.push kind) store.size = kind := by
  rw [kindOf, Array.getElem?_push_size, Option.getD_some]

theorem kindOf_push_of_lt
    (kind : Kind)
    (inside : slot < store.size) :
    kindOf (store.push kind) slot = store.kindOf slot := by
  rw [kindOf, kindOf, Array.getElem?_push_lt inside,
    Array.getElem?_eq_getElem inside]

theorem kindOf_set_self
    (kind : Kind)
    (inside : slot < store.size) :
    kindOf (store.setIfInBounds slot kind) slot = kind := by
  rw [kindOf, Array.getElem?_setIfInBounds_self_of_lt inside,
    Option.getD_some]

theorem kindOf_set_of_ne
    {other : Nat}
    (kind : Kind)
    (elsewhere : other ≠ slot) :
    kindOf (store.setIfInBounds slot kind) other = store.kindOf other := by
  rw [kindOf, kindOf, Array.getElem?_setIfInBounds_ne (Ne.symm elsewhere)]

/-- Slots that clash are left alone. -/
theorem unify_of_clash (clash : store.Clash first second) :
    store.unify first second = store := by
  rcases clash with ⟨firstConcrete, secondConcrete, -⟩
  simp only [unify, firstConcrete, secondConcrete]

end FlatStore

/-! ## What an arena shows and how it is made -/

namespace Arena

/--
Reading a slot gives the kind that the store has for it and changes nothing.
Making two slots agree fails exactly where they clash, and then changes
nothing either.
-/
structure Shows (arena : Arena) (store : FlatStore) : Prop where
  size_eq : arena.size = store.size
  get_eq : ∀ slot < store.size,
    get slot arena = .ok (store.kindOf slot) arena
  clash : ∀ first < store.size, ∀ second < store.size,
    ∀ site : Option Pos, store.Clash first second →
      unify first second site arena =
        .error
          ⟨.mismatch (store.kindOf first) (store.kindOf second),
            site.getD .nowhere⟩
          arena
  agree : ∀ first < store.size, ∀ second < store.size,
    ∀ site : Option Pos, ¬ store.Clash first second →
      ∃ later, unify first second site arena = .ok () later

/--
Every slot has a parent that is a root.  What is below another slot stores no
concrete kind and its root stores one, so a root that stores none has nothing
below it, and looking a root up changes nothing.
-/
structure Shallow (arena : Arena) : Prop where
  has_parent : ∀ slot < arena.size,
    ∃ root : Nat, arena.parents[slot]? = some root
  parent_root : ∀ slot root : Nat, arena.parents[slot]? = some root →
    arena.parents[root]? = some root
  below : ∀ slot root : Nat, arena.parents[slot]? = some root → root ≠ slot →
    arena.kinds[slot]? = some .unknown ∧
      ∃ kind : Kind, arena.kinds[root]? = some kind ∧ kind.isConcrete = true
  alone : ∀ slot root : Nat, arena.parents[slot]? = some root →
    arena.kinds[root]? = some .unknown → slot = root
  find_eq : ∀ slot root : Nat, arena.parents[slot]? = some root →
    find slot arena = .ok root arena

variable {arena : Arena}
variable {store : FlatStore}
variable {slot first second : Nat}

theorem Tidy.rooted_of_parent
    {root : Nat}
    (tidy : arena.Tidy)
    (parent : arena.parents[slot]? = some root) :
    ∃ kind, arena.Rooted slot root kind := by
  rcases Array.getElem?_eq_some_iff.1 parent with ⟨inside, -⟩
  rw [tidy.size_eq] at inside
  rcases tidy.rooted slot inside with ⟨found, kind, rooted⟩
  obtain rfl : found = root :=
    Option.some.inj (rooted.parent.symm.trans parent)
  exact ⟨kind, rooted⟩

theorem Tidy.shallow (tidy : arena.Tidy) : arena.Shallow where
  has_parent := by
    intro slot inside
    rcases tidy.rooted slot inside with ⟨root, kind, rooted⟩
    exact ⟨root, rooted.parent⟩
  parent_root := by
    intro slot root parent
    rcases tidy.rooted_of_parent parent with ⟨kind, rooted⟩
    exact rooted.top
  below := by
    intro slot root parent other
    rcases tidy.rooted_of_parent parent with ⟨kind, rooted⟩
    rcases rooted.below other with ⟨unknown, concrete⟩
    exact ⟨unknown, kind, rooted.stored, concrete⟩
  alone := by
    intro slot root parent unknown
    rcases tidy.rooted_of_parent parent with ⟨kind, rooted⟩
    obtain rfl : kind = .unknown :=
      Option.some.inj (rooted.stored.symm.trans unknown)
    exact rooted.eq_of_unknown.symm
  find_eq := by
    intro slot root parent
    rcases tidy.rooted_of_parent parent with ⟨kind, rooted⟩
    exact rooted.find_eq

/-! ## Calls on a tidy arena -/

namespace Tidy

/-- Looking a root up changes nothing, also where there is no such slot. -/
theorem after_find
    (tidy : arena.Tidy)
    (slot : Nat) :
    arena.after (.find slot) = arena := by
  rcases tidy.rooted_or_outside slot with ⟨root, kind, rooted⟩ | outside
  · exact congrArg finalState (bind_eq_of_ok rooted.find_eq _)
  · exact congrArg finalState (bind_eq_of_error (find_eq_error outside) _)

/-- Reading a kind changes nothing, also where there is no such slot. -/
theorem after_get
    (tidy : arena.Tidy)
    (slot : Nat) :
    arena.after (.get slot) = arena := by
  rcases tidy.rooted_or_outside slot with ⟨root, kind, rooted⟩ | outside
  · have got : get slot arena = .ok kind arena := by
      rw [get, bind_eq_of_ok rooted.find_eq, rooted.stored_eq]
    exact congrArg finalState (bind_eq_of_ok got _)
  · have fails := bind_eq_of_error (find_eq_error outside) stored
    exact congrArg finalState (bind_eq_of_error fails _)

/-- A call keeps an arena tidy, whatever slots it names. -/
theorem tidy_after
    (tidy : arena.Tidy)
    (call : ArenaCall) :
    (arena.after call).Tidy := by
  cases call with
  | new kind =>
      exact tidy.push kind
  | find slot =>
      rw [tidy.after_find]
      exact tidy
  | get slot =>
      rw [tidy.after_get]
      exact tidy
  | unify first second site =>
      exact tidy.tidy_unify first second site

end Tidy

/-- An arena that is built by calls is tidy. -/
theorem tidy_afterAll (calls : List ArenaCall) :
    (afterAll calls).Tidy := by
  have goesOn {arena : Arena} (tidy : arena.Tidy) :
      (calls.foldl Arena.after arena).Tidy := by
    induction calls generalizing arena with
    | nil =>
        exact tidy
    | cons call calls ih =>
        exact ih (tidy.tidy_after call)
  exact goesOn tidy_empty

/-! ## Calls on an arena and on its store -/

/-- A tidy arena and a store give every slot the same kind. -/
structure Flattens (arena : Arena) (store : FlatStore) : Prop where
  tidy : arena.Tidy
  size_eq : arena.size = store.size
  kind_eq : ∀ slot < arena.size, arena.kindOf slot = store.kindOf slot

theorem flattens_empty : empty.Flattens #[] where
  tidy := tidy_empty
  size_eq := rfl
  kind_eq := fun _ inside => (Nat.not_lt_zero _ inside).elim

namespace Flattens

theorem push
    (flattens : arena.Flattens store)
    (kind : Kind) :
    (arena.push kind).Flattens (store.push kind) where
  tidy := flattens.tidy.push kind
  size_eq := by
    rw [size_push, Array.size_push, flattens.size_eq]
  kind_eq := by
    intro slot inside
    rw [size_push] at inside
    rcases Nat.lt_succ_iff_lt_or_eq.1 inside with old | rfl
    · rw [flattens.tidy.kindOf_push_of_lt kind old, flattens.kind_eq slot old]
      rw [flattens.size_eq] at old
      rw [FlatStore.kindOf_push_of_lt kind old]
    · rw [flattens.tidy.kindOf_push_self]
      rw [flattens.size_eq, FlatStore.kindOf_push_self]

/-- A slot that becomes known is written over in the store. -/
theorem settle
    {later : Arena}
    {kind : Kind}
    (flattens : arena.Flattens store)
    (inside : slot < arena.size)
    (settles : arena.Settles later slot kind) :
    later.Flattens (store.setIfInBounds slot kind) where
  tidy := settles.tidy
  size_eq := by
    rw [settles.size_eq, flattens.size_eq, Array.size_setIfInBounds]
  kind_eq := by
    intro other otherInside
    rw [settles.size_eq] at otherInside
    by_cases same : other = slot
    · subst same
      rw [flattens.size_eq] at inside
      rw [settles.kindOf_self, FlatStore.kindOf_set_self kind inside]
    · rw [settles.kindOf_other other otherInside same,
        FlatStore.kindOf_set_of_ne kind same, flattens.kind_eq other otherInside]

/-- Slots that clash are a fault. -/
theorem unify_of_clash
    (flattens : arena.Flattens store)
    (firstInside : first < arena.size)
    (secondInside : second < arena.size)
    (clash : store.Clash first second)
    (site : Option Pos) :
    unify first second site arena =
      .error
        ⟨.mismatch (store.kindOf first) (store.kindOf second),
          site.getD .nowhere⟩
        arena := by
  rcases clash with ⟨firstConcrete, secondConcrete, differ⟩
  rw [← flattens.kind_eq first firstInside] at firstConcrete differ ⊢
  rw [← flattens.kind_eq second secondInside] at secondConcrete differ ⊢
  exact flattens.tidy.unify_of_mismatch firstInside secondInside
    firstConcrete secondConcrete differ site

/-- Slots that do not clash are made to agree as in the store. -/
theorem unify_of_not_clash
    (flattens : arena.Flattens store)
    (firstInside : first < arena.size)
    (secondInside : second < arena.size)
    (compatible : ¬ store.Clash first second)
    (site : Option Pos) :
    ∃ later,
      unify first second site arena = .ok () later ∧
        later.Flattens (store.unify first second) := by
  have tidy := flattens.tidy
  have firstKind := flattens.kind_eq first firstInside
  have secondKind := flattens.kind_eq second secondInside
  rw [FlatStore.Clash, ← firstKind, ← secondKind] at compatible
  rw [FlatStore.unify, ← firstKind, ← secondKind]
  cases firstConcrete : (arena.kindOf first).isConcrete with
  | false =>
      have firstUnknown := Kind.isConcrete_eq_false_iff.1 firstConcrete
      cases secondConcrete : (arena.kindOf second).isConcrete with
      | false =>
          have secondUnknown := Kind.isConcrete_eq_false_iff.1 secondConcrete
          have same := firstUnknown.trans secondUnknown.symm
          exact ⟨arena,
            tidy.unify_of_eq firstInside secondInside same site, flattens⟩
      | true =>
          rcases
              tidy.unify_of_unknown_left firstInside secondInside
                firstUnknown secondConcrete site with
            ⟨later, agreed, settles⟩
          exact ⟨later, agreed, flattens.settle firstInside settles⟩
  | true =>
      cases secondConcrete : (arena.kindOf second).isConcrete with
      | false =>
          have secondUnknown := Kind.isConcrete_eq_false_iff.1 secondConcrete
          rcases
              tidy.unify_of_unknown_right firstInside secondInside
                firstConcrete secondUnknown site with
            ⟨later, agreed, settles⟩
          exact ⟨later, agreed, flattens.settle secondInside settles⟩
      | true =>
          have same : arena.kindOf first = arena.kindOf second :=
            Decidable.byContradiction fun differ =>
              compatible ⟨firstConcrete, secondConcrete, differ⟩
          exact ⟨arena,
            tidy.unify_of_eq firstInside secondInside same site, flattens⟩

/-- A call on existing slots does to the arena what it does to the store. -/
theorem after
    {call : ArenaCall}
    (flattens : arena.Flattens store)
    (inRange : call.InRange arena.size) :
    (arena.after call).Flattens (store.after call) := by
  cases call with
  | new kind =>
      exact flattens.push kind
  | find slot =>
      rw [flattens.tidy.after_find]
      exact flattens
  | get slot =>
      rw [flattens.tidy.after_get]
      exact flattens
  | unify first second site =>
      rcases inRange with ⟨firstInside, secondInside⟩
      by_cases clash : store.Clash first second
      · have fails :=
          flattens.unify_of_clash firstInside secondInside clash site
        rw [Arena.after, ArenaCall.perform, fails, FlatStore.after,
          FlatStore.unify_of_clash clash]
        exact flattens
      · rcases
            flattens.unify_of_not_clash firstInside secondInside clash site with
          ⟨later, agreed, flattensLater⟩
        rw [Arena.after, ArenaCall.perform, agreed]
        exact flattensLater

theorem size_after
    {call : ArenaCall}
    (flattens : arena.Flattens store)
    (inRange : call.InRange arena.size) :
    (arena.after call).size = call.sizeAfter arena.size := by
  rw [(flattens.after inRange).size_eq, flattens.size_eq]
  cases call with
  | new kind =>
      exact Array.size_push kind
  | find slot =>
      rfl
  | get slot =>
      rfl
  | unify first second site =>
      rw [FlatStore.after, FlatStore.unify]
      split
      · exact Array.size_setIfInBounds
      · exact Array.size_setIfInBounds
      · rfl
      · rfl

/-- A sequence of calls keeps the arena and the store alike. -/
theorem foldl
    {calls : List ArenaCall}
    (flattens : arena.Flattens store)
    (inRange : ArenaCall.AllInRange arena.size calls) :
    (calls.foldl Arena.after arena).Flattens
      (calls.foldl FlatStore.after store) := by
  -- Along the calls: what is in range for the next one is counted from the
  -- arena that the call before it leaves.
  induction calls generalizing arena store with
  | nil =>
      exact flattens
  | cons call calls ih =>
      rcases inRange with ⟨first, others⟩
      rw [← flattens.size_after first] at others
      exact ih (flattens.after first) others

theorem shows (flattens : arena.Flattens store) : arena.Shows store where
  size_eq := flattens.size_eq
  get_eq := by
    intro slot inside
    rw [← flattens.size_eq] at inside
    rw [flattens.tidy.get_eq inside, flattens.kind_eq slot inside]
  clash := by
    intro first firstInside second secondInside site clash
    rw [← flattens.size_eq] at firstInside secondInside
    exact flattens.unify_of_clash firstInside secondInside clash site
  agree := by
    intro first firstInside second secondInside site compatible
    rw [← flattens.size_eq] at firstInside secondInside
    rcases
        flattens.unify_of_not_clash firstInside secondInside compatible site with
      ⟨later, agreed, -⟩
    exact ⟨later, agreed⟩

end Flattens

/--
After any calls on existing slots, those that fail among them, an arena shows
the kinds of the flat store that has taken the same calls, and every slot is
directly below its root.
-/
theorem arena_is_flat
    {calls : List ArenaCall}
    (inRange : ArenaCall.AllInRange 0 calls) :
    (afterAll calls).Shows (FlatStore.afterAll calls) ∧
      (afterAll calls).Shallow := by
  have flattens : (afterAll calls).Flattens (FlatStore.afterAll calls) :=
    flattens_empty.foldl inRange
  exact ⟨flattens.shows, flattens.tidy.shallow⟩

/-- The third call to `unify` meets a clash, which leaves the store alone. -/
theorem arena_is_flat_clash :
    ∃ calls : List ArenaCall,
      calls =
        [ .new .unknown, .new .int, .new ⟨"text"⟩, .new .unknown,
          .unify 0 1 none, .unify 2 3 none, .unify 3 0 (some ⟨3, 5⟩),
          .find 0, .get 3 ] ∧
      ArenaCall.AllInRange 0 calls ∧
      FlatStore.afterAll calls = #[.int, .int, ⟨"text"⟩, ⟨"text"⟩] ∧
      (FlatStore.afterAll calls).Clash 3 0 ∧
      (afterAll calls).Shows (FlatStore.afterAll calls) ∧
      (afterAll calls).Shallow := by
  refine ⟨_, rfl, by decide, by decide, by decide, ?_⟩
  exact arena_is_flat (by decide)

end Arena

end Sprig
