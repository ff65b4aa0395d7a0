import Mathlib.Data.List.Forall2
import Sprig.Proofs.Typing.Reference
import Sprig.Proofs.Typing.Tidy
import Sprig.Typing.Checked

/-!
# The checker follows the reference

The state of a check is matched with a ledger through the list of the slots
that its bindings own, oldest binding first.  No slot is owned twice, and the
kind of a slot is what the ledger knows of its entry.  The arena is tidy, so
that learning the kind of one slot teaches nothing about another.

Both checkers run through the same steps, and values that have been computed
in one step are used in later ones.  A `World` is therefore made explicit,
the slots together with the arena, and `Refines` says of a step of both
checkers that from matching states it leads to matching states in a world that
has only grown, or to the same error.  What an operand denotes in one world it
still denotes in every later one.
-/

namespace Sprig

/-- The slots of the bindings, oldest first, in their arena. -/
structure World where
  slots : List Nat
  arena : Arena

/-- The binding that an entry and a slot stand for. -/
def bound (entry : Entry) (slot : Nat) : String × Declared :=
  (entry.name, ⟨slot, entry.pos⟩)

/-- A state of the checker and a ledger say the same. -/
structure Simulates
    (world : World)
    (state : CheckState)
    (ledger : Ledger) : Prop where
  arena_eq : state.arena = world.arena
  tidy : world.arena.Tidy
  length_eq : ledger.entries.length = world.slots.length
  scope_eq : state.scope.toList.reverse =
    List.zipWith bound ledger.entries world.slots
  distinct : world.slots.Nodup
  inside : ∀ slot ∈ world.slots, slot < world.arena.size
  kinds_eq : world.slots.map world.arena.kindOf =
    ledger.entries.map Entry.kind
  rets_eq : state.rets = List.replicate ledger.promised .int

/-- Slots are added and never exchanged, and what is an `int` stays one. -/
structure World.Grows (before after : World) : Prop where
  slots : before.slots <+: after.slots
  size_le : before.arena.size ≤ after.arena.size
  int : ∀ slot < before.arena.size, before.arena.kindOf slot = .int →
    after.arena.kindOf slot = .int

/-- A slot holds what an operand stands for. -/
def World.Denotes (world : World) (slot : Nat) : Operand → Prop
  | .literal => slot < world.arena.size ∧ world.arena.kindOf slot = .int
  | .entry index => world.slots[index]? = some slot

/-- Each slot holds what the operand at its place stands for. -/
def World.DenoteAll (world : World) : List Nat → List Operand → Prop :=
  List.Forall₂ world.Denotes

namespace World.Grows

variable {before middle after : World}

theorem refl (world : World) : world.Grows world where
  slots := List.prefix_rfl
  size_le := Nat.le_refl _
  int := fun _ _ isInt => isInt

theorem trans
    (first : before.Grows middle)
    (second : middle.Grows after) :
    before.Grows after where
  slots := first.slots.trans second.slots
  size_le := Nat.le_trans first.size_le second.size_le
  int := fun slot inside isInt =>
    second.int slot (Nat.lt_of_lt_of_le inside first.size_le)
      (first.int slot inside isInt)

theorem denotes
    {slot : Nat}
    {operand : Operand}
    (grows : before.Grows after)
    (denotes : before.Denotes slot operand) :
    after.Denotes slot operand := by
  cases operand with
  | literal =>
      rcases denotes with ⟨inside, isInt⟩
      exact ⟨Nat.lt_of_lt_of_le inside grows.size_le,
        grows.int slot inside isInt⟩
  | entry index =>
      have owned : before.slots[index]? = some slot := denotes
      rcases List.getElem?_eq_some_iff.1 owned with ⟨inside, -⟩
      rcases grows.slots with ⟨added, same⟩
      show after.slots[index]? = some slot
      rw [← same, List.getElem?_append_left inside, owned]

end World.Grows

/-! ## Steps of both checkers -/

variable {α β : Type}
variable {world : World}

/-- Outcomes that match: the same error, or related results in a later world. -/
inductive Matches
    (world : World)
    (related : World → α → β → Prop) :
    EStateM.Result TypeError CheckState α →
      EStateM.Result TypeError Ledger β → Prop where
  | ok
      {later : World} {state : CheckState} {ledger : Ledger}
      {result : α} {value : β}
      (grows : world.Grows later)
      (simulates : Simulates later state ledger)
      (same : related later result value) :
      Matches world related (.ok result state) (.ok value ledger)
  | error
      {state : CheckState} {ledger : Ledger}
      (error : TypeError) :
      Matches world related (.error error state) (.error error ledger)

/-- From states that match, two actions lead to outcomes that match. -/
def Refines
    (world : World)
    (action : Check α)
    (reference : Reference β)
    (related : World → α → β → Prop) : Prop :=
  ∀ state ledger,
    Simulates world state ledger →
      Matches world related (action state) (reference ledger)

/-- Relations that hold on when the world grows. -/
def Persists (related : World → α → β → Prop) : Prop :=
  ∀ ⦃before after⦄, before.Grows after →
    ∀ ⦃result value⦄, related before result value → related after result value

theorem persists_denotes : Persists World.Denotes :=
  fun _ _ grows _ _ denotes => grows.denotes denotes

theorem persists_denoteAll : Persists World.DenoteAll :=
  fun _ _ grows _ _ denote => denote.imp fun _ _ => grows.denotes

namespace Refines

variable {γ δ : Type}
variable {related : World → α → β → Prop}
variable {further : World → γ → δ → Prop}

theorem pure
    {result : α}
    {value : β}
    (same : related world result value) :
    Refines world (Pure.pure result) (Pure.pure value) related :=
  fun _ _ simulates => .ok (.refl world) simulates same

theorem throw
    {α β : Type}
    {related : World → α → β → Prop}
    (error : TypeError) :
    Refines world (MonadExcept.throw error) (MonadExcept.throw error) related :=
  fun _ _ _ => .error error

/-- Steps follow one another in worlds that grow. -/
theorem bind
    {action : Check α}
    {reference : Reference β}
    {next : α → Check γ}
    {nextReference : β → Reference δ}
    (first : Refines world action reference related)
    (second : ∀ later, world.Grows later →
      ∀ result value, related later result value →
        Refines later (next result) (nextReference value) further) :
    Refines world (action >>= next) (reference >>= nextReference) further := by
  intro state ledger simulates
  have outcome := first state ledger simulates
  generalize ran : action state = result at outcome
  generalize answered : reference ledger = answer at outcome
  cases outcome with
  | @ok later _ _ _ _ grows simulates same =>
      rw [bind_eq_of_ok ran, bind_eq_of_ok answered]
      have outcome := second later grows _ _ same _ _ simulates
      generalize next _ _ = result at outcome
      generalize nextReference _ _ = answer at outcome
      cases outcome with
      | ok growsOn simulates same =>
          exact .ok (grows.trans growsOn) simulates same
      | error error =>
          exact .error error
  | error error =>
      rw [bind_eq_of_error ran, bind_eq_of_error answered]
      exact .error error

/-- A result that is not needed. -/
theorem discard
    {action : Check α}
    {reference : Reference β}
    (refines : Refines world action reference related) :
    Refines world (Functor.discard action) (Functor.discard reference)
      fun _ _ _ => True := by
  rw [Functor.discard, Functor.discard, map_const, map_const,
    Function.comp_apply, Function.comp_apply, ← bind_pure_comp,
    ← bind_pure_comp]
  exact bind refines fun _ _ _ _ _ => pure trivial

/-- Lists of items that correspond, passed through step by step. -/
theorem forM
    {action : α → Check PUnit}
    {reference : β → Reference PUnit}
    {items : List α}
    {others : List β}
    (persists : Persists related)
    (correspond : List.Forall₂ (related world) items others)
    (step : ∀ later item other, related later item other →
      Refines later (action item) (reference other) fun _ _ _ => True) :
    Refines world (items.forM action) (others.forM reference)
      fun _ _ _ => True := by
  induction items generalizing world others with
  | nil =>
      cases correspond
      exact pure trivial
  | cons item items ih =>
      cases correspond with
      | cons same correspond =>
          apply bind (step world _ _ same)
          intro later grows _ _ _
          exact ih (correspond.imp fun _ _ same => persists grows same)

/-- Both checkers pass through the same items. -/
theorem forM_same
    {action : γ → Check PUnit}
    {reference : γ → Reference PUnit}
    (items : List γ)
    (step : ∀ later item,
      Refines later (action item) (reference item) fun _ _ _ => True) :
    Refines world (items.forM action) (items.forM reference)
      fun _ _ _ => True := by
  have persists : Persists fun _ (item other : γ) => item = other :=
    fun _ _ _ _ _ same => same
  apply forM persists (List.forall₂_same.2 fun _ _ => rfl)
  rintro later item _ rfl
  exact step later item

theorem mapM
    {action : γ → Check α}
    {reference : γ → Reference β}
    (persists : Persists related)
    (items : List γ)
    (step : ∀ later item,
      Refines later (action item) (reference item) related) :
    Refines world (items.mapM action) (items.mapM reference)
      fun later => List.Forall₂ (related later) := by
  induction items generalizing world with
  | nil =>
      rw [List.mapM_nil, List.mapM_nil]
      exact pure .nil
  | cons item items ih =>
      rw [List.mapM_cons, List.mapM_cons]
      apply bind (step world item)
      intro middle _ result value same
      apply bind (@ih middle)
      intro later grows results values correspond
      exact pure (.cons (persists grows same) correspond)

theorem foldlM
    {action : α → γ → Check α}
    {reference : β → γ → Reference β}
    (items : List γ)
    (step : ∀ later item result value, related later result value →
      Refines later (action result item) (reference value item) related)
    {result : α}
    {value : β}
    (same : related world result value) :
    Refines world (items.foldlM action result)
      (items.foldlM reference value) related := by
  induction items generalizing world result value with
  | nil =>
      exact pure same
  | cons item items ih =>
      rw [List.foldlM_cons, List.foldlM_cons]
      apply bind (step world item _ _ same)
      intro later _ _ _ same
      exact ih same

end Refines

end Sprig
