/-!
# Outcomes of actions with state and errors

Parsers and checks are actions that either give a result or fail, and keep
the state that they have reached in both cases.  The lemmas here take a
sequence of such actions apart, and put one together: a sequence goes on
from the state and with the result of its first part.

`FailsOnly` says of an action that whatever error it fails with, in whatever
state, is of a kind.  A sequence fails only with the errors of its parts.
-/

namespace Sprig

variable {ε σ α β : Type}
variable {state after : σ}

/-- The state in which an action ends, whether it succeeds or fails. -/
def finalState : EStateM.Result ε σ α → σ
  | .ok _ state => state
  | .error _ state => state

/-- A sequence goes on with the result of its first part. -/
theorem bind_eq_of_ok
    {action : EStateM ε σ α}
    {value : α}
    (succeeds : action state = .ok value after)
    (next : α → EStateM ε σ β) :
    (action >>= next) state = next value after := by
  simp only [bind, EStateM.bind, succeeds]

/-- A sequence fails when its first part does. -/
theorem bind_eq_of_error
    {action : EStateM ε σ α}
    {error : ε}
    (fails : action state = .error error after)
    (next : α → EStateM ε σ β) :
    (action >>= next) state = .error error after := by
  simp only [bind, EStateM.bind, fails]

/-- A sequence gives a result only when both of its parts do. -/
theorem exists_of_bind_eq_ok
    {action : EStateM ε σ α}
    {next : α → EStateM ε σ β}
    {result : β}
    (succeeds : (action >>= next) state = .ok result after) :
    ∃ value middle,
      action state = .ok value middle ∧
        next value middle = .ok result after := by
  cases first : action state with
  | ok value middle =>
      rw [bind_eq_of_ok first] at succeeds
      exact ⟨value, middle, rfl, succeeds⟩
  | error error middle =>
      rw [bind_eq_of_error first] at succeeds
      cases succeeds

/-- A sequence fails in its first part or in its second. -/
theorem fails_of_bind_eq_error
    {action : EStateM ε σ α}
    {next : α → EStateM ε σ β}
    {error : ε}
    (fails : (action >>= next) state = .error error after) :
    action state = .error error after ∨
      ∃ value middle,
        action state = .ok value middle ∧
          next value middle = .error error after := by
  cases first : action state with
  | ok value middle =>
      rw [bind_eq_of_ok first] at fails
      exact .inr ⟨value, middle, rfl, fails⟩
  | error found middle =>
      rw [bind_eq_of_error first] at fails
      cases fails
      exact .inl rfl

/-- What is made of a result at the end changes no state. -/
theorem finalState_bind_pure
    (action : EStateM ε σ α)
    (change : α → β)
    (state : σ) :
    finalState ((action >>= fun value => pure (change value)) state) =
      finalState (action state) := by
  cases outcome : action state with
  | ok value after =>
      rw [bind_eq_of_ok outcome]
      rfl
  | error error after =>
      rw [bind_eq_of_error outcome]
      rfl

/-- Steps that change nothing change nothing together. -/
theorem forM_eq_of_forall
    {step : α → EStateM ε σ PUnit}
    {items : List α}
    (idle : ∀ item ∈ items, step item state = .ok PUnit.unit state) :
    items.forM step state = .ok PUnit.unit state := by
  induction items with
  | nil =>
      rfl
  | cons item items ih =>
      rcases List.forall_mem_cons.1 idle with ⟨first, others⟩
      exact (bind_eq_of_ok first _).trans (ih others)

/-- A loop that fails goes well up to an item and fails there. -/
theorem fails_of_forM_eq_error
    {step : α → EStateM ε σ PUnit}
    {items : List α}
    {error : ε}
    (fails : items.forM step state = .error error after) :
    ∃ index item middle,
      items[index]? = some item ∧
        (items.take index).forM step state = .ok PUnit.unit middle ∧
          step item middle = .error error after := by
  induction items generalizing state with
  | nil =>
      cases fails
  | cons item items ih =>
      rcases fails_of_bind_eq_error fails with first | ⟨_, next, passed, rest⟩
      · exact ⟨0, item, state, rfl, rfl, first⟩
      · rcases ih rest with ⟨index, found, middle, listed, before, stops⟩
        refine ⟨index + 1, found, middle, listed, ?_, stops⟩
        exact (bind_eq_of_ok passed _).trans before

/-! ## Kinds of errors -/

/-- Whatever an action fails with is of a kind. -/
def FailsOnly (kind : ε → Prop) (action : EStateM ε σ α) : Prop :=
  ∀ state error after, action state = .error error after → kind error

namespace FailsOnly

variable {kind : ε → Prop}
variable {action : EStateM ε σ α}

theorem never (succeeds : ∀ state error after,
      action state ≠ .error error after) :
    FailsOnly kind action :=
  fun state error after fails => absurd fails (succeeds state error after)

theorem pure (value : α) :
    FailsOnly kind (Pure.pure value : EStateM ε σ α) :=
  never fun _ _ _ => nofun

theorem throw
    {error : ε}
    (isKind : kind error) :
    FailsOnly kind (MonadExcept.throw error : EStateM ε σ α) := by
  intro state _ after fails
  cases fails
  exact isKind

theorem bind
    {next : α → EStateM ε σ β}
    (first : FailsOnly kind action)
    (second : ∀ value, FailsOnly kind (next value)) :
    FailsOnly kind (action >>= next) := by
  intro state error after fails
  rcases fails_of_bind_eq_error fails with fails | ⟨value, middle, -, fails⟩
  · exact first state error after fails
  · exact second value middle error after fails

theorem ite
    {condition : Prop}
    [Decidable condition]
    {negative : EStateM ε σ α}
    (first : FailsOnly kind action)
    (second : FailsOnly kind negative) :
    FailsOnly kind (if condition then action else negative) := by
  split
  · exact first
  · exact second

theorem discard (fails : FailsOnly kind action) :
    FailsOnly kind (Functor.discard action) := by
  rw [Functor.discard, map_const, Function.comp_apply, ← bind_pure_comp]
  exact fails.bind fun _ => pure _

theorem mono
    {wider : ε → Prop}
    (fails : FailsOnly kind action)
    (wide : ∀ error, kind error → wider error) :
    FailsOnly wider action :=
  fun state error after found => wide error (fails state error after found)

theorem forM
    {step : β → EStateM ε σ PUnit}
    {items : List β}
    (steps : ∀ item ∈ items, FailsOnly kind (step item)) :
    FailsOnly kind (items.forM step) := by
  intro state error after fails
  rcases fails_of_forM_eq_error fails with ⟨_, item, middle, listed, -, stops⟩
  exact steps item (List.mem_of_getElem? listed) middle error after stops

theorem mapM
    {step : β → EStateM ε σ α}
    {items : List β}
    (steps : ∀ item ∈ items, FailsOnly kind (step item)) :
    FailsOnly kind (items.mapM step) := by
  induction items with
  | nil =>
      rw [List.mapM_nil]
      exact pure []
  | cons item items ih =>
      rcases List.forall_mem_cons.1 steps with ⟨first, others⟩
      rw [List.mapM_cons]
      exact first.bind fun _ => (ih others).bind fun _ => pure _

theorem foldlM
    {step : α → β → EStateM ε σ α}
    {items : List β}
    (steps : ∀ item ∈ items, ∀ value, FailsOnly kind (step value item))
    (value : α) :
    FailsOnly kind (items.foldlM step value) := by
  induction items generalizing value with
  | nil =>
      exact pure value
  | cons item items ih =>
      rcases List.forall_mem_cons.1 steps with ⟨first, others⟩
      rw [List.foldlM_cons]
      exact (first value).bind fun later => ih others later

end FailsOnly

end Sprig
