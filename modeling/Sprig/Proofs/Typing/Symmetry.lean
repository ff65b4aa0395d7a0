import Sprig.Proofs.Typing.Compression
import Sprig.Proofs.Typing.FlatStore

/-!
# Slots made to agree in either order, and once more

Which of two slots is named first matters for the wording of a fault and for
nothing else: the arena that is left is the same array for array.  The reason
is that two look-ups may be exchanged.  Where the two ways meet they end at
one root, so that it does not matter which of them points the slots that they
share.

Once two slots agree they do so again, in either order, and no slot notices.
In a forest of any shape the second time may still shorten ways, because a way
that was pointed at a root before the root was moved is one step longer
afterwards.  In an arena that is built by calls there is no such way, and not
a single parent changes.
-/

namespace Sprig

namespace Arena

variable {arena after : Arena}
variable {slot root first second : Nat}
variable {firstRoot secondRoot : Nat}
variable {below path : List Nat}
variable {kind firstKind secondKind : Kind}

/-! ## Two look-ups exchanged -/

/-- Slots that two ways share lie below one root. -/
theorem Way.root_eq_of_mem
    {parents : Array Nat}
    (way : Way parents first below firstRoot)
    (other : Way parents second path secondRoot)
    (passed : slot ∈ below)
    (alsoPassed : slot ∈ path) :
    firstRoot = secondRoot := by
  rcases way.of_mem passed with ⟨-, rest, -, upward⟩
  rcases other.of_mem alsoPassed with ⟨-, remaining, -, further⟩
  exact (upward.unique further).2

/-- After two look-ups the slots of both ways point at their roots. -/
theorem Way.exists_compress_compress
    (way : Way arena.parents first below firstRoot)
    (other : Way arena.parents second path secondRoot) :
    ∃ rest,
      Way (arena.compress below firstRoot).parents second rest secondRoot ∧
        ∀ slot : Nat,
          ((arena.compress below firstRoot).compress rest
              secondRoot).parents[slot]? =
            if slot ∈ below then some firstRoot
            else if slot ∈ path then some secondRoot
            else arena.parents[slot]? := by
  rcases way.pointAll other with ⟨rest, shorter, passed, missed⟩
  have remaining :
      Way (arena.compress below firstRoot).parents second rest secondRoot :=
    shorter
  refine ⟨rest, remaining, fun slot => ?_⟩
  rw [remaining.getElem?_compress, way.getElem?_compress]
  by_cases onFirst : slot ∈ below
  · rw [if_pos onFirst, if_pos onFirst]
    split_ifs with onRest
    · rw [way.root_eq_of_mem other onFirst (passed onRest)]
    · rfl
  · have onSecond : slot ∈ rest ↔ slot ∈ path := by
      constructor
      · exact fun onRest => passed onRest
      · intro onPath
        exact (List.mem_append.1 (missed onPath)).resolve_right onFirst
    simp only [onSecond, if_neg onFirst]

/-- Two slots are looked up in either order, and the same arena is left. -/
theorem Forest.exists_find_find
    (forest : arena.Forest)
    (atFirst : arena.Resolves first firstRoot firstKind)
    (atSecond : arena.Resolves second secondRoot secondKind) :
    ∃ middle otherMiddle last,
      Arena.find first arena = .ok firstRoot middle ∧
        Arena.find second middle = .ok secondRoot last ∧
        Arena.find second arena = .ok secondRoot otherMiddle ∧
        Arena.find first otherMiddle = .ok firstRoot last ∧
        arena.SameClasses last := by
  rcases atFirst.way with ⟨below, way⟩
  rcases atSecond.way with ⟨path, other⟩
  rcases way.exists_compress_compress other with ⟨rest, onward, parents⟩
  rcases other.exists_compress_compress way with
    ⟨otherRest, otherOnward, otherParents⟩
  have same :
      (arena.compress path secondRoot).compress otherRest firstRoot =
        (arena.compress below firstRoot).compress rest secondRoot := by
    apply congrArg (Arena.mk arena.kinds)
    apply Array.ext_getElem?
    intro slot
    apply (otherParents slot).trans
    apply Eq.trans _ (parents slot).symm
    by_cases onFirst : slot ∈ below
    · by_cases onSecond : slot ∈ path
      · rw [if_pos onSecond, if_pos onFirst,
          way.root_eq_of_mem other onFirst onSecond]
      · rw [if_neg onSecond, if_pos onFirst, if_pos onFirst]
    · rw [if_neg onFirst, if_neg onFirst]
  have sameClasses := forest.sameClasses_compress way
  refine ⟨_, _, _, way.find_eq, onward.find_eq, other.find_eq, ?_, ?_⟩
  · rw [← same]
    exact otherOnward.find_eq
  · exact sameClasses.trans (sameClasses.forest.sameClasses_compress onward)

/-- Equal outcomes, but where one expects a kind the other has found it. -/
inductive Mirrored :
    EStateM.Result TypeError Arena Unit →
      EStateM.Result TypeError Arena Unit → Prop where
  | agreed (after : Arena) :
      Mirrored (.ok () after) (.ok () after)
  | refused (expected found : Kind) (pos : Pos) (after : Arena) :
      Mirrored
        (.error ⟨.mismatch expected found, pos⟩ after)
        (.error ⟨.mismatch found expected, pos⟩ after)

theorem Forest.mirrored
    (forest : arena.Forest)
    (atFirst : arena.Resolves first firstRoot firstKind)
    (atSecond : arena.Resolves second secondRoot secondKind)
    (site : Option Pos) :
    Mirrored (unify first second site arena)
      (unify second first site arena) := by
  rcases forest.exists_find_find atFirst atSecond with
    ⟨middle, otherMiddle, last, findFirst, thenSecond, findSecond, thenFirst,
      same⟩
  have storedFirst := (same.resolves _ _ _ atFirst).stored
  have storedSecond := (same.resolves _ _ _ atSecond).stored
  rw [unify_eq_of_find findFirst thenSecond storedFirst storedSecond,
    unify_eq_of_find findSecond thenFirst storedSecond storedFirst]
  by_cases sameRoot : firstRoot = secondRoot
  · rw [if_pos sameRoot, if_pos sameRoot.symm]
    exact .agreed last
  · rw [if_neg sameRoot, if_neg (Ne.symm sameRoot)]
    cases firstKind.isConcrete with
    | false =>
        cases secondKind.isConcrete with
        | false =>
            exact .agreed last
        | true =>
            exact .agreed _
    | true =>
        cases secondKind.isConcrete with
        | false =>
            exact .agreed _
        | true =>
            by_cases sameKind : firstKind = secondKind
            · simp only [sameKind, if_true]
              exact .agreed last
            · simp only [if_true, if_neg sameKind, if_neg (Ne.symm sameKind)]
              exact .refused firstKind secondKind _ last

/-! ## Slots that agree already -/

/-- Slots of one kind agree, and no slot notices. -/
theorem Forest.unify_of_eq
    (forest : arena.Forest)
    (atFirst : arena.Resolves first firstRoot kind)
    (atSecond : arena.Resolves second secondRoot kind)
    (site : Option Pos) :
    ∃ later, unify first second site arena = .ok () later ∧
      arena.SameClasses later := by
  have merges := forest.merges atFirst atSecond site
  generalize unify first second site arena = outcome at merges
  cases merges with
  | unmoved _ same =>
      exact ⟨_, rfl, same⟩
  | firstMoved unknown concrete _ =>
      subst unknown
      cases concrete
  | secondMoved concrete unknown _ =>
      subst unknown
      cases concrete
  | refused _ _ differ _ =>
      exact (differ rfl).elim

/-- Slots that have been made to agree are of one kind. -/
theorem Forest.resolves_of_unify
    {site : Option Pos}
    (forest : arena.Forest)
    (atFirst : arena.Resolves first firstRoot firstKind)
    (atSecond : arena.Resolves second secondRoot secondKind)
    (agreed : unify first second site arena = .ok () after) :
    after.Forest ∧
      ∃ root top kind,
        after.Resolves first root kind ∧ after.Resolves second top kind := by
  have merges := forest.merges atFirst atSecond site
  rw [agreed] at merges
  cases merges with
  | unmoved equal same =>
      subst equal
      exact ⟨same.forest, _, _, _, same.resolves _ _ _ atFirst,
        same.resolves _ _ _ atSecond⟩
  | firstMoved unknown concrete moves =>
      subst unknown
      have differ : secondRoot ≠ firstRoot := by
        apply ne_of_stored atSecond.stored atFirst.stored
        rintro rfl
        cases concrete
      exact ⟨moves.forest, _, _, _, moves.followed _ _ atFirst,
        moves.kept _ _ _ atSecond differ⟩
  | secondMoved concrete unknown moves =>
      subst unknown
      have differ : firstRoot ≠ secondRoot := by
        apply ne_of_stored atFirst.stored atSecond.stored
        rintro rfl
        cases concrete
      exact ⟨moves.forest, _, _, _, moves.kept _ _ _ atFirst differ,
        moves.followed _ _ atSecond⟩

/-! ## Arenas built by calls -/

theorem Resolves.inside
    (resolves : arena.Resolves slot root kind)
    (forest : arena.Forest) :
    slot < arena.size := by
  rcases resolves.way with ⟨below, way⟩
  rw [size, ← forest.size_eq]
  exact way.inside

/-- The kind that is read is the one that the root stores. -/
theorem Resolves.kindOf_eq (resolves : arena.Resolves slot root kind) :
    arena.kindOf slot = kind := by
  rcases resolves.way with ⟨below, way⟩
  simp [kindOf, kind?, root?, way?_eq_some_iff.2 way, resolves.stored]

/-- Slots that agree in an arena built by calls agree without a change. -/
theorem unify_again_afterAll
    {calls : List ArenaCall}
    {site : Option Pos}
    (built : arena = afterAll calls)
    (atFirst : arena.Resolves first firstRoot firstKind)
    (atSecond : arena.Resolves second secondRoot secondKind)
    (agreed : unify first second site arena = .ok () after)
    (again : Option Pos) :
    unify first second again after = .ok () after ∧
      unify second first again after = .ok () after := by
  have tidy : arena.Tidy := built ▸ tidy_afterAll calls
  have tidyAfter : after.Tidy := by
    have kept := tidy.tidy_unify first second site
    rwa [agreed] at kept
  rcases tidy.forest.resolves_of_unify atFirst atSecond agreed with
    ⟨forest, root, top, kind, firstAfter, secondAfter⟩
  have firstInside := firstAfter.inside forest
  have secondInside := secondAfter.inside forest
  have same := firstAfter.kindOf_eq.trans secondAfter.kindOf_eq.symm
  constructor
  · exact tidyAfter.unify_of_eq firstInside secondInside same again
  · exact tidyAfter.unify_of_eq secondInside firstInside same.symm again

/--
In a forest of any shape two slots are made to agree in either order with the
same outcome, a fault with its kinds exchanged.  Slots that have been made to
agree do so once more in either order, and no slot notices; in an arena that is
built by calls nothing is changed at all.
-/
theorem unify_either_order_and_again
    (forest : arena.Forest)
    (firstInside : first < arena.size)
    (secondInside : second < arena.size)
    (site : Option Pos) :
    Mirrored (unify first second site arena)
        (unify second first site arena) ∧
      ∀ after, unify first second site arena = .ok () after →
        ∀ again : Option Pos,
          (∃ later, unify first second again after = .ok () later ∧
            after.SameClasses later) ∧
          (∃ later, unify second first again after = .ok () later ∧
            after.SameClasses later) ∧
          ∀ calls, arena = afterAll calls →
            unify first second again after = .ok () after ∧
              unify second first again after = .ok () after := by
  rcases forest.exists_resolves firstInside with
    ⟨firstRoot, firstKind, atFirst⟩
  rcases forest.exists_resolves secondInside with
    ⟨secondRoot, secondKind, atSecond⟩
  refine ⟨forest.mirrored atFirst atSecond site, ?_⟩
  intro after agreed again
  rcases forest.resolves_of_unify atFirst atSecond agreed with
    ⟨forestAfter, root, top, kind, firstAfter, secondAfter⟩
  refine ⟨?_, ?_, ?_⟩
  · exact forestAfter.unify_of_eq firstAfter secondAfter again
  · exact forestAfter.unify_of_eq secondAfter firstAfter again
  · intro calls built
    exact unify_again_afterAll built atFirst atSecond agreed again

/--
Two ways that meet below a root which then moves: the second time a way is
shortened.  Nothing is shortened in the arena built by calls.
-/
theorem unify_either_order_and_again_deep :
    (∃ arena : Arena,
      arena = ⟨#[.unknown, .unknown, .unknown, .int], #[0, 0, 1, 3]⟩ ∧
      arena.Forest ∧ 2 < arena.size ∧ 3 < arena.size ∧
      unify 2 3 none arena = .ok () ⟨arena.kinds, #[3, 0, 0, 3]⟩ ∧
      unify 2 3 none ⟨arena.kinds, #[3, 0, 0, 3]⟩ =
        .ok () ⟨arena.kinds, #[3, 0, 3, 3]⟩ ∧
      Mirrored (unify 2 3 none arena) (unify 3 2 none arena) ∧
      ∃ later,
        unify 3 2 none ⟨arena.kinds, #[3, 0, 0, 3]⟩ = .ok () later ∧
          Arena.SameClasses ⟨arena.kinds, #[3, 0, 0, 3]⟩ later) ∧
    ∃ calls : List ArenaCall,
      calls =
        [.new .unknown, .new .int, .new .unknown, .unify 0 1 none] ∧
      (afterAll calls).Forest ∧ 0 < (afterAll calls).size ∧
      2 < (afterAll calls).size ∧
      unify 0 2 none (afterAll calls) =
        .ok () ⟨(afterAll calls).kinds, #[1, 1, 1]⟩ ∧
      unify 2 0 none ⟨(afterAll calls).kinds, #[1, 1, 1]⟩ =
        .ok () ⟨(afterAll calls).kinds, #[1, 1, 1]⟩ := by
  have forest :
      Forest ⟨#[.unknown, .unknown, .unknown, .int], #[0, 0, 1, 3]⟩ := by
    decide
  have built :
      Forest (afterAll
        [.new .unknown, .new .int, .new .unknown, .unify 0 1 none]) := by
    decide
  constructor
  · have both := unify_either_order_and_again forest (show 2 < 4 by decide)
      (show 3 < 4 by decide) none
    exact ⟨_, rfl, forest, by decide, by decide, rfl, rfl, both.1,
      (both.2 _ rfl none).2.1⟩
  · have both := unify_either_order_and_again built (show 0 < 3 by decide)
      (show 2 < 3 by decide) none
    exact ⟨_, rfl, built, by decide, by decide, rfl,
      ((both.2 _ rfl none).2.2 _ rfl).2⟩

end Arena

end Sprig
