import Sprig.Proofs.Typing.Merging

/-!
# What looking a root up changes

The slots above a slot lead to exactly one root.  When it has been found,
every slot on the way points at it, and no other parent has changed.  In a
forest of any shape no slot notices: each still has its root and its kind, and
looking a slot of the way up once more changes nothing.

`find` knows the whole way before it changes a parent.  `repoint` walks and
changes at the same time, one parent after the other.  It overwrites the very
parents that led it, yet never one that it has still to follow, so both come
to the same parents.
-/

namespace Sprig

namespace Arena

variable {arena : Arena}
variable {parents : Array Nat}
variable {slot start root : Nat}
variable {below : List Nat}

/-! ## A way changed while it is walked -/

/--
Up from a slot, each slot on the way is pointed at the root before the slot
above it is visited, until one points at the root already.  There is no answer
when the way leaves the array or is longer than `steps` slots.
-/
def repoint
    (root : Nat) :
    (steps : Nat) → Array Nat → Nat → Option (Array Nat)
  | 0, _, _ => none
  | steps + 1, parents, slot =>
    match parents[slot]? with
    | none => none
    | some parent =>
      if parent = root then
        some parents
      else
        repoint root steps (parents.setIfInBounds slot root) parent

/-- A way is not changed by what is written outside it. -/
theorem Way.setIfInBounds
    {value : Nat}
    (way : Way parents start below root)
    (notPassed : slot ∉ below)
    (notRoot : slot ≠ root) :
    Way (parents.setIfInBounds slot value) start below root := by
  induction way with
  | top isTop =>
      apply Way.top
      rw [Array.getElem?_setIfInBounds_ne notRoot, isTop]
  | step under other way ih =>
      rw [List.mem_cons, not_or] at notPassed
      rcases notPassed with ⟨notHere, notAbove⟩
      apply Way.step _ other (ih notAbove notRoot)
      rw [Array.getElem?_setIfInBounds_ne notHere, under]

/-- Walking and changing at once gives the parents that `find` gives. -/
theorem Way.repoint_eq
    {steps : Nat}
    (way : Way parents slot below root)
    (enough : below.length < steps) :
    repoint root steps parents slot =
      some (Arena.pointAll parents below root) := by
  -- Along the way; what is still to be walked is a way in the parents that
  -- have been changed so far.
  induction below generalizing parents slot steps with
  | nil =>
      cases way with
      | top isTop =>
          cases steps with
          | zero =>
              cases enough
          | succ steps =>
              simp only [repoint, isTop, if_true]
              rfl
  | cons first others ih =>
      have apart := way.nodup
      have notRoot : slot ≠ root := by
        rintro rfl
        exact List.cons_ne_nil _ _ (way.unique (.top way.isTop)).1
      cases way with
      | @step _ parent _ _ under other onward =>
          rw [List.nodup_cons] at apart
          cases steps with
          | zero =>
              cases enough
          | succ steps =>
              simp only [repoint, under]
              by_cases atRoot : parent = root
              · subst atRoot
                rcases onward.unique (.top onward.isTop) with ⟨rfl, -⟩
                rw [if_pos rfl]
                congr 1
                exact (setIfInBounds_eq_self under).symm
              · rw [if_neg atRoot]
                apply ih (onward.setIfInBounds apart.1 notRoot)
                exact Nat.lt_of_succ_lt_succ enough

/-! ## Exact compression -/

/-- Exactly the slots of the way are pointed at its root. -/
theorem Way.getElem?_compress
    (way : Way arena.parents slot below root)
    (start : Nat) :
    (arena.compress below root).parents[start]? =
      if start ∈ below then some root else arena.parents[start]? := by
  split_ifs with passed
  · rcases way.of_mem passed with ⟨-, rest, -, upward⟩
    exact getElem?_pointAll_of_mem _ passed upward.inside
  · exact getElem?_pointAll_of_not_mem _ passed

/-- The slots of the way end directly below its root, and so does the root. -/
theorem Way.getElem?_compress_of_mem
    (way : Way arena.parents slot below root)
    (member : start ∈ root :: below) :
    (arena.compress below root).parents[start]? = some root := by
  rw [way.getElem?_compress]
  split_ifs with passed
  · rfl
  · rcases List.mem_cons.1 member with rfl | above
    · exact way.isTop
    · exact (passed above).elim

/--
A slot is looked up: the root is the only one above it, the slots of the way
to it end directly below it, and nothing else is changed or noticed.
-/
structure FindsRoot
    (arena : Arena) (slot : Nat)
    (below : List Nat) (root : Nat) (after : Arena) : Prop where
  way : Way arena.parents slot below root
  only : ∀ path top, Way arena.parents slot path top →
    path = below ∧ top = root
  found : find slot arena = .ok root after
  walked : repoint root arena.size arena.parents slot = some after.parents
  on_way : ∀ passed ∈ root :: below, after.parents[passed]? = some root
  off_way : ∀ other, other ∉ root :: below →
    after.parents[other]? = arena.parents[other]?
  kinds_eq : after.kinds = arena.kinds
  classes : ∀ other < arena.size, ∃ top kind,
    arena.Resolves other top kind ∧ after.Resolves other top kind
  again : ∀ passed ∈ root :: below, find passed after = .ok root after

theorem Forest.findsRoot
    (forest : arena.Forest)
    (way : Way arena.parents slot below root) :
    arena.FindsRoot slot below root (arena.compress below root) where
  way := way
  only := by
    intro path top other
    exact other.unique way
  found := way.find_eq
  walked := by
    apply way.repoint_eq
    rw [size, ← forest.size_eq]
    exact way.length_lt
  on_way := fun _ member => way.getElem?_compress_of_mem member
  off_way := by
    intro other absent
    rw [List.mem_cons, not_or] at absent
    rw [way.getElem?_compress, if_neg absent.2]
  kinds_eq := rfl
  classes := by
    intro other inside
    rcases forest.exists_resolves inside with ⟨top, kind, resolves⟩
    have same := forest.sameClasses_compress way
    exact ⟨top, kind, resolves, same.resolves other top kind resolves⟩
  again := by
    intro passed member
    apply find_eq_self
    · exact way.getElem?_compress_of_mem member
    · exact way.getElem?_compress_of_mem List.mem_cons_self

/--
In a forest of any shape every slot is looked up: there is one root above it,
which is found, and only the way to it becomes shorter.
-/
theorem find_compresses_way
    (forest : arena.Forest)
    (inside : slot < arena.size) :
    ∃ below root after, arena.FindsRoot slot below root after := by
  rcases forest.exists_way inside with ⟨below, root, way⟩
  exact ⟨below, root, _, forest.findsRoot way⟩

/-- Four slots lead to one root; the last of them is not on the way. -/
theorem find_compresses_way_deep :
    ∃ arena : Arena,
      arena = ⟨#[.int, .unknown, ⟨"text"⟩, .unknown, .int], #[0, 0, 1, 2, 2]⟩ ∧
      arena.Forest ∧ 3 < arena.size ∧
      find 3 arena = .ok 0 ⟨arena.kinds, #[0, 0, 0, 0, 2]⟩ ∧
      ∃ below root after, arena.FindsRoot 3 below root after := by
  refine ⟨_, rfl, by decide, by decide, rfl, ?_⟩
  exact find_compresses_way (by decide) (by decide)

end Arena

end Sprig
