import Mathlib.Data.Fintype.EquivFin
import Mathlib.Data.Fintype.Card
import Mathlib.Logic.Relation
import Sprig.Proofs.Typing.Tidy

/-!
# Arenas as forests

An arena whose parents are written by hand may hold trees of any depth.  What
is asked of it is only that parents lie in range and never lead back, which is
what `Forest` says.

`Way` is the chain from a slot up to its root.  There is at most one for each
slot, and in a forest there is one, which `climb` finds.  Conversely an arena
in which every slot has a way is a forest, so a change to the parents is
understood once it is known where the ways lead afterwards.  Two changes are
described here: the slots of a way pointed at its root, which leaves every
slot its root, and a root placed under another, which moves the slots below it
and no others.
-/

namespace Sprig

namespace Arena

/-- One slot is placed under another. -/
def Under (arena : Arena) (slot parent : Nat) : Prop :=
  arena.parents[slot]? = some parent ∧ parent ≠ slot

/-- Parents lie in range and never lead back. -/
structure Forest (arena : Arena) : Prop where
  size_eq : arena.parents.size = arena.kinds.size
  parent_inside : ∀ slot parent : Nat,
    arena.parents[slot]? = some parent → parent < arena.size
  acyclic : ∀ slot, ¬ Relation.TransGen arena.Under slot slot

/-! ## Ways -/

/-- The slots on the way from a slot up to its root, and the root. -/
inductive Way (parents : Array Nat) : Nat → List Nat → Nat → Prop where
  | top
      {root : Nat}
      (isTop : parents[root]? = some root) :
      Way parents root [] root
  | step
      {slot parent root : Nat} {below : List Nat}
      (under : parents[slot]? = some parent)
      (other : parent ≠ slot)
      (way : Way parents parent below root) :
      Way parents slot (slot :: below) root

namespace Way

variable {parents : Array Nat}
variable {slot root start top : Nat}
variable {below path : List Nat}

/-- A way ends at a root. -/
theorem isTop (way : Way parents slot below root) :
    parents[root]? = some root := by
  induction way with
  | top isTop =>
      exact isTop
  | step under other way ih =>
      exact ih

theorem inside (way : Way parents slot below root) :
    slot < parents.size := by
  cases way with
  | top isTop =>
      exact (Array.getElem?_eq_some_iff.1 isTop).1
  | step under other way =>
      exact (Array.getElem?_eq_some_iff.1 under).1

/-- There is only one way up from a slot. -/
theorem unique
    (way : Way parents slot below root)
    (second : Way parents slot path top) :
    below = path ∧ root = top := by
  induction way generalizing path with
  | top isTop =>
      cases second with
      | top _ =>
          exact ⟨rfl, rfl⟩
      | step under other _ =>
          exact (other (Option.some.inj (under.symm.trans isTop))).elim
  | step under other way ih =>
      cases second with
      | top isTop =>
          exact (other (Option.some.inj (under.symm.trans isTop))).elim
      | step otherUnder _ further =>
          cases under.symm.trans otherUnder
          rcases ih further with ⟨rfl, rfl⟩
          exact ⟨rfl, rfl⟩

/-- Every slot on a way goes the rest of it. -/
theorem of_mem
    (way : Way parents slot below root)
    (member : start ∈ below) :
    ∃ before rest, below = before ++ start :: rest ∧
      Way parents start (start :: rest) root := by
  induction way with
  | top isTop =>
      cases member
  | @step slot _ _ below under other way ih =>
      rcases List.mem_cons.1 member with rfl | later
      · exact ⟨[], below, rfl, .step under other way⟩
      · rcases ih later with ⟨before, rest, rfl, further⟩
        exact ⟨slot :: before, rest, rfl, further⟩

/-- A slot on a way is not a root. -/
theorem not_isTop_of_mem
    (way : Way parents slot below root)
    (member : start ∈ below) :
    parents[start]? ≠ some start := by
  intro isTop
  rcases way.of_mem member with ⟨-, rest, -, further⟩
  exact List.cons_ne_nil _ _ (further.unique (.top isTop)).1

/-- No slot is passed twice. -/
theorem nodup (way : Way parents slot below root) :
    below.Nodup := by
  induction way with
  | top isTop =>
      exact .nil
  | @step slot _ _ below under other way ih =>
      refine List.nodup_cons.2 ⟨fun again => ?_, ih⟩
      rcases way.of_mem again with ⟨before, rest, rfl, further⟩
      have same := (further.unique (.step under other way)).1
      have lengths := congrArg List.length same
      simp only [List.length_cons, List.length_append] at lengths
      omega

/-- A way has fewer slots below its root than there are slots. -/
theorem length_lt (way : Way parents slot below root) :
    below.length < parents.size := by
  have apart : (root :: below).Nodup :=
    List.nodup_cons.2 ⟨fun member => way.not_isTop_of_mem member way.isTop,
      way.nodup⟩
  have inRange : root :: below ⊆ List.range parents.size := by
    refine List.cons_subset.2 ⟨?_, fun start member => ?_⟩
    · exact List.mem_range.2 (Array.getElem?_eq_some_iff.1 way.isTop).1
    · rcases way.of_mem member with ⟨-, rest, -, further⟩
      exact List.mem_range.2 further.inside
  have bound := (List.subperm_of_subset apart inRange).length_le
  rwa [List.length_range] at bound

/-- With enough steps a climb finds the way. -/
theorem climb_eq
    {steps : Nat}
    (way : Way parents slot below root)
    (enough : below.length < steps) :
    climb parents steps slot = some (below, root) := by
  induction way generalizing steps with
  | top isTop =>
      cases steps with
      | zero =>
          cases enough
      | succ steps =>
          simp only [climb, isTop, if_true]
  | step under other way ih =>
      cases steps with
      | zero =>
          cases enough
      | succ steps =>
          have found := ih (Nat.lt_of_succ_lt_succ enough)
          simp only [climb, under, if_neg other, found, Option.map_some]

/-- The slots above a slot go the rest of its way. -/
theorem of_transGen
    {arena : Arena}
    (above : Relation.TransGen arena.Under start slot)
    (way : Way arena.parents start below root) :
    ∃ rest, Way arena.parents slot rest root ∧
      rest.length < below.length := by
  have oneStep {low high : Nat} {path : List Nat}
      (under : arena.Under low high)
      (way : Way arena.parents low path root) :
      ∃ rest, Way arena.parents high rest root ∧
        rest.length < path.length := by
    cases way with
    | top isTop =>
        exact (under.2 (Option.some.inj (under.1.symm.trans isTop))).elim
    | step found other way =>
        cases found.symm.trans under.1
        exact ⟨_, way, Nat.lt_succ_self _⟩
  induction above with
  | single under =>
      exact oneStep under way
  | tail _ under ih =>
      rcases ih with ⟨rest, further, shorter⟩
      rcases oneStep under further with ⟨last, ends, still⟩
      exact ⟨last, ends, Nat.lt_trans still shorter⟩

end Way

/-- What a climb finds is the way. -/
theorem way_of_climb
    {parents : Array Nat}
    {steps slot root : Nat}
    {below : List Nat}
    (climbed : climb parents steps slot = some (below, root)) :
    Way parents slot below root := by
  induction steps generalizing slot below with
  | zero =>
      cases climbed
  | succ steps ih =>
      rw [climb] at climbed
      cases found : parents[slot]? with
      | none =>
          simp only [found, reduceCtorEq] at climbed
      | some parent =>
          by_cases itself : parent = slot
          · simp only [found, if_pos itself, Option.some.injEq,
              Prod.mk.injEq] at climbed
            rcases climbed with ⟨rfl, rfl⟩
            exact .top (itself ▸ found)
          · simp only [found, if_neg itself, Option.map_eq_some_iff] at climbed
            rcases climbed with ⟨⟨rest, top⟩, higher, pair⟩
            cases pair
            exact .step found itself (ih higher)

variable {arena : Arena}
variable {slot root : Nat}
variable {below : List Nat}

theorem way?_eq_some_iff :
    arena.way? slot = some (below, root) ↔ Way arena.parents slot below root :=
  ⟨way_of_climb, fun way => way.climb_eq way.length_lt⟩

/-! ## Forests -/

/-- Every slot of a forest has a root above it. -/
theorem Forest.exists_way
    (forest : arena.Forest)
    (inside : slot < arena.size) :
    ∃ below root, Way arena.parents slot below root := by
  -- Slots are finitely many and none is above itself, so one may assume that
  -- there is a way from every slot above.
  let Above : Fin arena.size → Fin arena.size → Prop := fun high low =>
    Relation.TransGen arena.Under low.val high.val
  have : IsTrans (Fin arena.size) Above :=
    ⟨fun _ _ _ first second => second.trans first⟩
  have : Std.Irrefl Above := ⟨fun slot => forest.acyclic slot⟩
  have wellFounded := Finite.wellFounded_of_trans_of_irrefl Above
  generalize start : (⟨slot, inside⟩ : Fin arena.size) = index
  induction index using wellFounded.induction generalizing slot with
  | _ index ih =>
      subst start
      have inParents : slot < arena.parents.size := forest.size_eq ▸ inside
      have found := Array.getElem?_eq_getElem inParents
      by_cases itself : arena.parents[slot] = slot
      · exact ⟨[], slot, .top (found.trans (congrArg some itself))⟩
      · have higher := forest.parent_inside _ _ found
        rcases ih ⟨_, higher⟩ (.single ⟨found, itself⟩) higher rfl with
          ⟨below, root, way⟩
        exact ⟨_, root, .step found itself way⟩

/-- An arena in which every slot has a root above it is a forest. -/
theorem forest_of_ways
    (size_eq : arena.parents.size = arena.kinds.size)
    (ways : ∀ slot < arena.size,
      ∃ below root, Way arena.parents slot below root) :
    arena.Forest where
  size_eq := size_eq
  parent_inside := by
    intro slot parent found
    have inside := (Array.getElem?_eq_some_iff.1 found).1
    rw [size_eq] at inside
    rcases ways slot inside with ⟨below, root, way⟩
    have bound : parent < arena.parents.size := by
      cases way with
      | top isTop =>
          cases found.symm.trans isTop
          exact (Array.getElem?_eq_some_iff.1 isTop).1
      | step under other way =>
          cases found.symm.trans under
          exact way.inside
    rwa [size_eq] at bound
  acyclic := by
    intro slot cycle
    have inside : slot < arena.size := by
      rcases Relation.TransGen.head'_iff.1 cycle with ⟨_, under, -⟩
      have inParents := (Array.getElem?_eq_some_iff.1 under.1).1
      rwa [size_eq] at inParents
    rcases ways slot inside with ⟨below, root, way⟩
    rcases way.of_transGen cycle with ⟨rest, again, shorter⟩
    rw [(again.unique way).1] at shorter
    exact Nat.lt_irrefl _ shorter

/-- Whether an arena is a forest is seen by climbing from every slot. -/
theorem forest_iff :
    arena.Forest ↔
      arena.parents.size = arena.kinds.size ∧
        ∀ slot < arena.size, (arena.way? slot).isSome = true := by
  constructor
  · intro forest
    refine ⟨forest.size_eq, fun slot inside => ?_⟩
    rcases forest.exists_way inside with ⟨below, root, way⟩
    rw [way?_eq_some_iff.2 way]
    rfl
  · rintro ⟨size_eq, ways⟩
    refine forest_of_ways size_eq fun slot inside => ?_
    rcases Option.isSome_iff_exists.1 (ways slot inside) with
      ⟨⟨below, root⟩, found⟩
    exact ⟨below, root, way?_eq_some_iff.1 found⟩

instance : DecidablePred Forest := fun _ =>
  decidable_of_iff _ forest_iff.symm

/-- A tidy arena is a forest, in which ways have one step at most. -/
theorem Tidy.forest (tidy : arena.Tidy) : arena.Forest := by
  refine forest_of_ways tidy.size_eq fun slot inside => ?_
  rcases tidy.rooted slot inside with ⟨root, kind, rooted⟩
  by_cases itself : root = slot
  · subst itself
    exact ⟨[], root, .top rooted.top⟩
  · exact ⟨[slot], root, .step rooted.parent itself (.top rooted.top)⟩

/-! ## Slots pointed at the root above them -/

/-- The arena in which the slots of a way point at its root. -/
def compress (arena : Arena) (below : List Nat) (root : Nat) : Arena :=
  { arena with parents := pointAll arena.parents below root }

/-- Looking up the root of a slot points the slots of its way at the root. -/
theorem Way.find_eq (way : Way arena.parents slot below root) :
    find slot arena = .ok root (arena.compress below root) := by
  simp only [find, way?_eq_some_iff.2 way, compress]

theorem getElem?_pointAll_of_mem
    {slots : List Nat}
    (parents : Array Nat)
    (member : slot ∈ slots)
    (inside : slot < parents.size) :
    (pointAll parents slots root)[slot]? = some root := by
  induction slots using List.reverseRecOn with
  | nil =>
      cases member
  | append_singleton slots last ih =>
      have split : pointAll parents (slots ++ [last]) root =
          (pointAll parents slots root).setIfInBounds last root :=
        List.foldl_append
      rw [split]
      by_cases isLast : last = slot
      · subst isLast
        refine Array.getElem?_setIfInBounds_self_of_lt ?_
        rw [size_parents_pointAll]
        exact inside
      · rw [Array.getElem?_setIfInBounds_ne isLast]
        refine ih ((List.mem_append.1 member).resolve_right ?_)
        exact fun same => isLast (List.mem_singleton.1 same).symm

theorem getElem?_pointAll_of_not_mem
    {slots : List Nat}
    (parents : Array Nat)
    (absent : slot ∉ slots) :
    (pointAll parents slots root)[slot]? = parents[slot]? := by
  induction slots generalizing parents with
  | nil =>
      rfl
  | cons first slots ih =>
      rw [List.mem_cons, not_or] at absent
      exact (ih _ absent.2).trans
        (Array.getElem?_setIfInBounds_ne (Ne.symm absent.1))

/--
When the slots of a way point at its root, every way leads where it led.  It
passes no slot that it did not pass before, and it misses only slots of the
way that has been pointed.
-/
theorem Way.pointAll
    {parents : Array Nat}
    {start top : Nat}
    {path : List Nat}
    (way : Way parents slot below root)
    (other : Way parents start path top) :
    ∃ shorter, Way (pointAll parents below root) start shorter top ∧
      shorter ⊆ path ∧ path ⊆ shorter ++ below := by
  have kept {index : Nat} (isTop : parents[index]? = some index) :
      (Arena.pointAll parents below root)[index]? = some index := by
    rw [getElem?_pointAll_of_not_mem parents
      fun member => way.not_isTop_of_mem member isTop, isTop]
  induction other with
  | top isTop =>
      exact ⟨[], .top (kept isTop), List.nil_subset _, List.nil_subset _⟩
  | @step start parent top path under different onward ih =>
      by_cases member : start ∈ below
      · rcases way.of_mem member with ⟨before, rest, split, upward⟩
        have isTop := way.isTop
        rcases upward.unique (.step under different onward) with ⟨same, rfl⟩
        have pointed : (Arena.pointAll parents below root)[start]? = some root :=
          getElem?_pointAll_of_mem parents member upward.inside
        have notItself : root ≠ start := by
          rintro rfl
          exact way.not_isTop_of_mem member isTop
        refine ⟨[start], .step pointed notItself (.top (kept isTop)), ?_, ?_⟩
        · simp
        · -- What the way passes after `start` it passes above `start`.
          rw [← same, split]
          simp
      · rcases ih with ⟨shorter, further, passed, missed⟩
        have still : (Arena.pointAll parents below root)[start]? = some parent :=
          (getElem?_pointAll_of_not_mem parents member).trans under
        refine ⟨start :: shorter, .step still different further, ?_, ?_⟩
        · exact List.cons_subset_cons start passed
        · exact List.cons_subset_cons start missed

/-! ## A root placed under another -/

/-- The slots below the root that is moved follow it, and no others do. -/
theorem Way.setRoot
    {parents : Array Nat}
    {low high : Nat}
    (lowTop : parents[low]? = some low)
    (highTop : parents[high]? = some high)
    (differ : low ≠ high)
    (way : Way parents slot below root) :
    ∃ path, Way (parents.setIfInBounds low high) slot path
      (if root = low then high else root) := by
  have lowInside := (Array.getElem?_eq_some_iff.1 lowTop).1
  induction way with
  | @top root isTop =>
      by_cases isLow : root = low
      · subst isLow
        rw [if_pos rfl]
        have pointed : (parents.setIfInBounds root high)[root]? = some high :=
          Array.getElem?_setIfInBounds_self_of_lt lowInside
        rw [← Array.getElem?_setIfInBounds_ne differ] at highTop
        exact ⟨[root], .step pointed (Ne.symm differ) (.top highTop)⟩
      · rw [if_neg isLow]
        rw [← Array.getElem?_setIfInBounds_ne (Ne.symm isLow)] at isTop
        exact ⟨[], .top isTop⟩
  | @step slot parent root below under other way ih =>
      have elsewhere : low ≠ slot := by
        rintro rfl
        exact other (Option.some.inj (under.symm.trans lowTop))
      rcases ih with ⟨path, further⟩
      rw [← Array.getElem?_setIfInBounds_ne elsewhere] at under
      exact ⟨slot :: path, .step under other further⟩

end Arena

end Sprig
