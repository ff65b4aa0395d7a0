import Mathlib.Tactic.SplitIfs
import Sprig.Proofs.Outcome
import Sprig.Typing.Arena

/-!
# Tidy arenas

An arena that is built by its own actions never grows deep.  Only roots of
unknown kind are placed under other roots, and only under concrete ones, so no
slot is ever more than one step away from its root, and a slot of unknown kind
is a root with nothing below it.

`Tidy` says this, and every action preserves it.  In a tidy arena looking a
root up changes nothing, and `unify` changes the kind of at most one slot:
that of the slot whose kind was unknown.  The forest is thus no more than a
list of kinds, which `kindOf` reads.
-/

namespace Sprig

namespace Arena

variable {arena : Arena}
variable {slot root : Nat}
variable {kind : Kind}

/--
A slot is its own root or directly below its root, and only a slot about which
nothing is known is below another.
-/
structure Rooted (arena : Arena) (slot root : Nat) (kind : Kind) : Prop where
  parent : arena.parents[slot]? = some root
  top : arena.parents[root]? = some root
  stored : arena.kinds[root]? = some kind
  below : root ≠ slot →
    arena.kinds[slot]? = some .unknown ∧ kind.isConcrete = true

/-- Every slot has a root at most one step away. -/
structure Tidy (arena : Arena) : Prop where
  size_eq : arena.parents.size = arena.kinds.size
  rooted : ∀ slot < arena.size, ∃ root kind, arena.Rooted slot root kind

theorem tidy_empty : empty.Tidy where
  size_eq := rfl
  rooted := fun _ inside => (Nat.not_lt_zero _ inside).elim

/-! ## Rooted slots -/

/-- A slot that points at a root already may be pointed at it again. -/
theorem setIfInBounds_eq_self
    {parents : Array Nat}
    (parent : parents[slot]? = some root) :
    parents.setIfInBounds slot root = parents := by
  rcases Array.getElem?_eq_some_iff.1 parent with ⟨inside, slotParent⟩
  rw [Array.setIfInBounds, dif_pos inside, ← slotParent]
  exact Array.set_getElem_self inside

/-- The way up from a slot that points at a root is as short as it can be. -/
theorem short_way
    (parent : arena.parents[slot]? = some root)
    (top : arena.parents[root]? = some root) :
    ∃ below,
      arena.way? slot = some (below, root) ∧
        pointAll arena.parents below root = arena.parents := by
  rcases Array.getElem?_eq_some_iff.1 parent with ⟨inside, -⟩
  rcases Array.getElem?_eq_some_iff.1 top with ⟨rootInside, -⟩
  by_cases itself : root = slot
  · rcases Nat.exists_eq_add_one_of_ne_zero (Nat.ne_zero_of_lt inside) with
      ⟨steps, enough⟩
    refine ⟨[], ?_, rfl⟩
    rw [way?, enough, climb, parent]
    simp only [itself, if_true]
  · obtain ⟨steps, enough⟩ : ∃ steps, arena.parents.size = steps + 1 + 1 :=
      ⟨arena.parents.size - 2, by omega⟩
    refine ⟨[slot], ?_, ?_⟩
    · rw [way?, enough, climb, parent]
      simp only [if_neg itself]
      rw [climb, top]
      simp only [if_true, Option.map_some]
    · exact setIfInBounds_eq_self parent

/-- A slot that points at a root is looked up without a change. -/
theorem find_eq_self
    (parent : arena.parents[slot]? = some root)
    (top : arena.parents[root]? = some root) :
    find slot arena = .ok root arena := by
  rcases short_way parent top with ⟨below, way, unchanged⟩
  simp only [find, way, unchanged]

/-- A slot outside the arena is not found, and nothing changes. -/
theorem find_eq_error (outside : arena.parents[slot]? = none) :
    find slot arena = .error ⟨.noSuchSlot, .nowhere⟩ arena := by
  have notFound : arena.way? slot = none := by
    rw [way?]
    cases arena.parents.size with
    | zero =>
        rfl
    | succ steps =>
        simp only [climb, outside]
  simp only [find, notFound]

namespace Rooted

/-- Looking the root up changes nothing. -/
theorem find_eq
    (rooted : arena.Rooted slot root kind) :
    find slot arena = .ok root arena :=
  find_eq_self rooted.parent rooted.top

theorem stored_eq
    (rooted : arena.Rooted slot root kind) :
    Arena.stored root arena = .ok kind arena := by
  simp only [Arena.stored, rooted.stored]

theorem kindOf_eq
    (rooted : arena.Rooted slot root kind) :
    arena.kindOf slot = kind := by
  rcases short_way rooted.parent rooted.top with ⟨below, way, -⟩
  simp only [kindOf, kind?, root?, way, Option.map_some, Option.bind_some,
    rooted.stored, Option.getD_some]

/-- A root is its own root. -/
theorem at_top
    (rooted : arena.Rooted slot root kind) :
    arena.Rooted root root kind where
  parent := rooted.top
  top := rooted.top
  stored := rooted.stored
  below := fun other => (other rfl).elim

/-- A slot about which nothing is known is a root. -/
theorem eq_of_unknown
    (rooted : arena.Rooted slot root .unknown) :
    root = slot := by
  by_cases itself : root = slot
  · exact itself
  · rcases rooted.below itself with ⟨-, concrete⟩
    cases concrete

/-- A slot about which nothing is known has no other slots below it. -/
theorem ne_of_unknown
    {unknownSlot : Nat}
    (rooted : arena.Rooted slot root kind)
    (unknown : arena.Rooted unknownSlot unknownSlot .unknown)
    (other : slot ≠ unknownSlot) :
    root ≠ unknownSlot := by
  rintro rfl
  rcases rooted.below other.symm with ⟨-, concrete⟩
  have nothing := rooted.stored.symm.trans unknown.stored
  cases nothing
  cases concrete

/-- Roots of which one is concrete and the other unknown differ. -/
theorem ne_of_concrete
    {low high : Nat}
    (unknown : arena.Rooted low low .unknown)
    (above : arena.Rooted high high kind)
    (concrete : kind.isConcrete = true) :
    low ≠ high := by
  rintro rfl
  have nothing := unknown.stored.symm.trans above.stored
  cases nothing
  cases concrete

end Rooted

/-- Every slot has a root, or is outside the arena. -/
theorem Tidy.rooted_or_outside
    (tidy : arena.Tidy)
    (slot : Nat) :
    (∃ root kind, arena.Rooted slot root kind) ∨
      arena.parents[slot]? = none := by
  rw [Array.getElem?_eq_none_iff, tidy.size_eq]
  rcases Nat.lt_or_ge slot arena.size with inside | outside
  · exact .inl (tidy.rooted slot inside)
  · exact .inr outside

/-! ## Fresh slots -/

/-- Reading the kind of a slot changes nothing. -/
theorem Tidy.get_eq
    (tidy : arena.Tidy)
    (inside : slot < arena.size) :
    get slot arena = .ok (arena.kindOf slot) arena := by
  rcases tidy.rooted slot inside with ⟨root, kind, rooted⟩
  rw [get, bind_eq_of_ok rooted.find_eq, rooted.stored_eq, rooted.kindOf_eq]

/-- The arena with one more slot. -/
def push (arena : Arena) (kind : Kind) : Arena :=
  ⟨arena.kinds.push kind, arena.parents.push arena.size⟩

@[simp]
theorem size_push (arena : Arena) (kind : Kind) :
    (arena.push kind).size = arena.size + 1 :=
  Array.size_push kind

/-- What stands in an array stands there when one more element follows. -/
theorem getElem?_push_of_eq_some
    {α : Type}
    {values : Array α}
    {index : Nat}
    {value : α}
    (known : values[index]? = some value)
    (last : α) :
    (values.push last)[index]? = some value := by
  rcases Array.getElem?_eq_some_iff.1 known with ⟨inside, -⟩
  rw [Array.getElem?_push_lt inside, ← known, Array.getElem?_eq_getElem inside]

theorem Rooted.push
    (rooted : arena.Rooted slot root kind)
    (last : Kind) :
    (arena.push last).Rooted slot root kind where
  parent := getElem?_push_of_eq_some rooted.parent _
  top := getElem?_push_of_eq_some rooted.top _
  stored := getElem?_push_of_eq_some rooted.stored _
  below := by
    intro other
    rcases rooted.below other with ⟨unknown, concrete⟩
    exact ⟨getElem?_push_of_eq_some unknown _, concrete⟩

namespace Tidy

/-- A fresh slot is its own root. -/
theorem rooted_push
    (tidy : arena.Tidy)
    (kind : Kind) :
    (arena.push kind).Rooted arena.size arena.size kind := by
  have parent : (arena.push kind).parents[arena.size]? = some arena.size := by
    have last := tidy.size_eq
    rw [push, size, ← last]
    exact Array.getElem?_push_size
  exact
    { parent := parent
      top := parent
      stored := Array.getElem?_push_size
      below := fun other => (other rfl).elim }

theorem push
    (tidy : arena.Tidy)
    (kind : Kind) :
    (arena.push kind).Tidy := by
  constructor
  · rw [Arena.push, Array.size_push, Array.size_push, tidy.size_eq]
  · intro slot inside
    rw [size_push] at inside
    rcases Nat.lt_succ_iff_lt_or_eq.1 inside with old | rfl
    · rcases tidy.rooted slot old with ⟨root, known, rooted⟩
      exact ⟨root, known, rooted.push kind⟩
    · exact ⟨arena.size, kind, tidy.rooted_push kind⟩

theorem kindOf_push_self
    (tidy : arena.Tidy)
    (kind : Kind) :
    (arena.push kind).kindOf arena.size = kind :=
  (tidy.rooted_push kind).kindOf_eq

/-- The other slots keep their kinds. -/
theorem kindOf_push_of_lt
    (tidy : arena.Tidy)
    (kind : Kind)
    (inside : slot < arena.size) :
    (arena.push kind).kindOf slot = arena.kindOf slot := by
  rcases tidy.rooted slot inside with ⟨root, known, rooted⟩
  rw [(rooted.push kind).kindOf_eq, rooted.kindOf_eq]

end Tidy

/-! ## Slots made to agree -/

variable {first second : Nat}
variable {low high : Nat}

/-- A root about which nothing is known placed under a concrete one. -/
theorem Rooted.setParent
    {known : Kind}
    (rooted : arena.Rooted slot root known)
    (unknown : arena.Rooted low low .unknown)
    (above : arena.Rooted high high kind)
    (concrete : kind.isConcrete = true) :
    (arena.setParent low high).Rooted slot
      (if slot = low then high else root)
      (if slot = low then kind else known) := by
  rcases Array.getElem?_eq_some_iff.1 unknown.parent with ⟨lowInside, -⟩
  have different := unknown.ne_of_concrete above concrete
  have kept {index parent : Nat}
      (elsewhere : low ≠ index)
      (before : arena.parents[index]? = some parent) :
      (arena.setParent low high).parents[index]? = some parent := by
    rw [Arena.setParent, Array.getElem?_setIfInBounds_ne elsewhere, before]
  by_cases isLow : slot = low
  · subst isLow
    rw [if_pos rfl, if_pos rfl]
    exact
      { parent := Array.getElem?_setIfInBounds_self_of_lt lowInside
        top := kept different above.parent
        stored := above.stored
        below := fun _ => ⟨unknown.stored, concrete⟩ }
  · have rootElsewhere := rooted.ne_of_unknown unknown isLow
    rw [if_neg isLow, if_neg isLow]
    exact
      { parent := kept (Ne.symm isLow) rooted.parent
        top := kept (Ne.symm rootElsewhere) rooted.top
        stored := rooted.stored
        below := rooted.below }

/-- One slot becomes known and the other slots keep their kinds. -/
structure Settles
    (before after : Arena)
    (slot : Nat)
    (kind : Kind) : Prop where
  tidy : after.Tidy
  size_eq : after.size = before.size
  kindOf_self : after.kindOf slot = kind
  kindOf_other : ∀ other < before.size, other ≠ slot →
    after.kindOf other = before.kindOf other

theorem Tidy.settles_setParent
    (tidy : arena.Tidy)
    (unknown : arena.Rooted low low .unknown)
    (above : arena.Rooted high high kind)
    (concrete : kind.isConcrete = true) :
    Settles arena (arena.setParent low high) low kind where
  tidy := by
    constructor
    · rw [setParent, Array.size_setIfInBounds, tidy.size_eq]
    · intro slot inside
      rcases tidy.rooted slot inside with ⟨root, known, rooted⟩
      exact ⟨_, _, rooted.setParent unknown above concrete⟩
  size_eq := rfl
  kindOf_self := by
    rw [(unknown.setParent unknown above concrete).kindOf_eq, if_pos rfl]
  kindOf_other := by
    intro slot inside other
    rcases tidy.rooted slot inside with ⟨root, known, rooted⟩
    rw [(rooted.setParent unknown above concrete).kindOf_eq, if_neg other,
      rooted.kindOf_eq]

/-- What is done with two slots is decided by the roots that are found. -/
theorem unify_eq_of_find
    {middle last : Arena}
    {firstRoot secondRoot : Nat}
    {firstKind secondKind : Kind}
    (findFirst : find first arena = .ok firstRoot middle)
    (findSecond : find second middle = .ok secondRoot last)
    (storesFirst : last.kinds[firstRoot]? = some firstKind)
    (storesSecond : last.kinds[secondRoot]? = some secondKind)
    (site : Option Pos) :
    unify first second site arena =
      if firstRoot = secondRoot then
        .ok () last
      else if firstKind.isConcrete then
        if secondKind.isConcrete then
          if firstKind = secondKind then
            .ok () last
          else
            .error ⟨.mismatch firstKind secondKind, site.getD .nowhere⟩ last
        else
          .ok () (last.setParent secondRoot firstRoot)
      else if secondKind.isConcrete then
        .ok () (last.setParent firstRoot secondRoot)
      else
        .ok () last := by
  have readFirst : stored firstRoot last = .ok firstKind last := by
    simp only [stored, storesFirst]
  have readSecond : stored secondRoot last = .ok secondKind last := by
    simp only [stored, storesSecond]
  rw [unify, bind_eq_of_ok findFirst, bind_eq_of_ok findSecond]
  by_cases sameRoot : firstRoot = secondRoot
  · rw [if_pos sameRoot, if_pos sameRoot]
    rfl
  · rw [if_neg sameRoot, if_neg sameRoot, bind_eq_of_ok readFirst,
      bind_eq_of_ok readSecond]
    cases firstKind.isConcrete with
    | false =>
        cases secondKind.isConcrete with
        | false =>
            rfl
        | true =>
            rfl
    | true =>
        cases secondKind.isConcrete with
        | false =>
            rfl
        | true =>
            by_cases sameKind : firstKind = secondKind
            · simp only [sameKind, if_true]
              rfl
            · simp only [sameKind, if_true, if_false]
              rfl

/-- In a tidy arena the roots are found without a change. -/
theorem unify_eq
    {firstRoot secondRoot : Nat}
    {firstKind secondKind : Kind}
    (atFirst : arena.Rooted first firstRoot firstKind)
    (atSecond : arena.Rooted second secondRoot secondKind)
    (site : Option Pos) :
    unify first second site arena =
      if firstRoot = secondRoot then
        .ok () arena
      else if firstKind.isConcrete then
        if secondKind.isConcrete then
          if firstKind = secondKind then
            .ok () arena
          else
            .error ⟨.mismatch firstKind secondKind, site.getD .nowhere⟩ arena
        else
          .ok () (arena.setParent secondRoot firstRoot)
      else if secondKind.isConcrete then
        .ok () (arena.setParent firstRoot secondRoot)
      else
        .ok () arena :=
  unify_eq_of_find atFirst.find_eq atSecond.find_eq atFirst.stored
    atSecond.stored site

namespace Tidy

/-- Slots of the same kind agree already. -/
theorem unify_of_eq
    (tidy : arena.Tidy)
    (firstInside : first < arena.size)
    (secondInside : second < arena.size)
    (same : arena.kindOf first = arena.kindOf second)
    (site : Option Pos) :
    unify first second site arena = .ok () arena := by
  rcases tidy.rooted first firstInside with ⟨firstRoot, firstKind, atFirst⟩
  rcases tidy.rooted second secondInside with ⟨secondRoot, secondKind, atSecond⟩
  rw [atFirst.kindOf_eq, atSecond.kindOf_eq] at same
  subst same
  rw [unify_eq atFirst atSecond]
  cases firstKind.isConcrete with
  | false =>
      simp
  | true =>
      simp

/-- A slot about which nothing is known takes the kind of the second one. -/
theorem unify_of_unknown_left
    (tidy : arena.Tidy)
    (firstInside : first < arena.size)
    (secondInside : second < arena.size)
    (unknown : arena.kindOf first = .unknown)
    (concrete : (arena.kindOf second).isConcrete = true)
    (site : Option Pos) :
    ∃ after,
      unify first second site arena = .ok () after ∧
        Settles arena after first (arena.kindOf second) := by
  rcases tidy.rooted first firstInside with ⟨firstRoot, firstKind, atFirst⟩
  rcases tidy.rooted second secondInside with ⟨secondRoot, secondKind, atSecond⟩
  rw [atFirst.kindOf_eq] at unknown
  rw [atSecond.kindOf_eq] at concrete ⊢
  subst unknown
  rcases atFirst.eq_of_unknown with rfl
  have differ := atFirst.ne_of_concrete atSecond.at_top concrete
  have nothing : ¬ Kind.unknown.isConcrete = true := Bool.false_ne_true
  refine ⟨arena.setParent firstRoot secondRoot, ?_,
    tidy.settles_setParent atFirst atSecond.at_top concrete⟩
  rw [unify_eq atFirst atSecond, if_neg differ, if_neg nothing,
    if_pos concrete]

/-- A slot about which nothing is known takes the kind of the first one. -/
theorem unify_of_unknown_right
    (tidy : arena.Tidy)
    (firstInside : first < arena.size)
    (secondInside : second < arena.size)
    (concrete : (arena.kindOf first).isConcrete = true)
    (unknown : arena.kindOf second = .unknown)
    (site : Option Pos) :
    ∃ after,
      unify first second site arena = .ok () after ∧
        Settles arena after second (arena.kindOf first) := by
  rcases tidy.rooted first firstInside with ⟨firstRoot, firstKind, atFirst⟩
  rcases tidy.rooted second secondInside with ⟨secondRoot, secondKind, atSecond⟩
  rw [atSecond.kindOf_eq] at unknown
  rw [atFirst.kindOf_eq] at concrete ⊢
  subst unknown
  rcases atSecond.eq_of_unknown with rfl
  have differ := atSecond.ne_of_concrete atFirst.at_top concrete
  have nothing : ¬ Kind.unknown.isConcrete = true := Bool.false_ne_true
  refine ⟨arena.setParent secondRoot firstRoot, ?_,
    tidy.settles_setParent atSecond atFirst.at_top concrete⟩
  rw [unify_eq atFirst atSecond, if_neg (Ne.symm differ), if_pos concrete,
    if_neg nothing]

/-- Two concrete kinds that differ are a fault, and the arena stays as it was. -/
theorem unify_of_mismatch
    (tidy : arena.Tidy)
    (firstInside : first < arena.size)
    (secondInside : second < arena.size)
    (firstConcrete : (arena.kindOf first).isConcrete = true)
    (secondConcrete : (arena.kindOf second).isConcrete = true)
    (differ : arena.kindOf first ≠ arena.kindOf second)
    (site : Option Pos) :
    unify first second site arena =
      .error
        ⟨.mismatch (arena.kindOf first) (arena.kindOf second),
          site.getD .nowhere⟩
        arena := by
  rcases tidy.rooted first firstInside with ⟨firstRoot, firstKind, atFirst⟩
  rcases tidy.rooted second secondInside with ⟨secondRoot, secondKind, atSecond⟩
  rw [atFirst.kindOf_eq] at firstConcrete differ ⊢
  rw [atSecond.kindOf_eq] at secondConcrete differ ⊢
  have rootsDiffer : firstRoot ≠ secondRoot := by
    rintro rfl
    exact differ (Option.some.inj (atFirst.stored.symm.trans atSecond.stored))
  rw [unify_eq atFirst atSecond, if_neg rootsDiffer, if_pos firstConcrete,
    if_pos secondConcrete, if_neg differ]

/-- Making slots agree keeps an arena tidy, whatever slots are named. -/
theorem tidy_unify
    (tidy : arena.Tidy)
    (first second : Nat)
    (site : Option Pos) :
    (finalState (unify first second site arena)).Tidy := by
  rcases tidy.rooted_or_outside first with
    ⟨firstRoot, firstKind, atFirst⟩ | firstOutside
  · rcases tidy.rooted_or_outside second with
      ⟨secondRoot, secondKind, atSecond⟩ | secondOutside
    · rw [unify_eq atFirst atSecond]
      split_ifs with sameRoot firstConcrete secondConcrete sameKind
        secondConcrete
      · exact tidy
      · exact tidy
      · exact tidy
      · have unknown := Kind.eq_unknown_of_not_isConcrete secondConcrete
        subst unknown
        exact (tidy.settles_setParent atSecond.at_top atFirst.at_top
          firstConcrete).tidy
      · have unknown := Kind.eq_unknown_of_not_isConcrete firstConcrete
        subst unknown
        exact (tidy.settles_setParent atFirst.at_top atSecond.at_top
          secondConcrete).tidy
      · exact tidy
    · rw [unify, bind_eq_of_ok atFirst.find_eq,
        bind_eq_of_error (find_eq_error secondOutside)]
      exact tidy
  · rw [unify, bind_eq_of_error (find_eq_error firstOutside)]
    exact tidy

end Tidy

end Arena

end Sprig
