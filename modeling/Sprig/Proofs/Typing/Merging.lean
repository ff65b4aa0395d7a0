import Sprig.Proofs.Typing.Forest

/-!
# Classes of a forest made to agree

The slots below one root are a class, and the kind that the root stores is the
kind of the whole class.  In a forest of any shape, whatever kinds it stores,
two slots are made to agree by their classes: an unknown class moves under a
concrete one, two concrete classes need the same kind, and otherwise nothing
happens to any class.

`Resolves` names the root and the kind of a slot.  Looking roots up changes
the parents of many slots, yet `SameClasses` says that no slot notices, and
`Moves` says the same of the slots outside a class that moves.
`classes_made_to_agree` puts the two together.
-/

namespace Sprig

namespace Arena

variable {arena before middle after : Arena}
variable {slot root top first second : Nat}
variable {kind known : Kind}

/-! ## Roots and kinds of slots -/

/-- The root above a slot, and the kind that it stores. -/
structure Resolves
    (arena : Arena) (slot root : Nat) (kind : Kind) : Prop where
  way : ∃ below, Way arena.parents slot below root
  stored : arena.kinds[root]? = some kind

theorem Resolves.isTop (resolves : arena.Resolves slot root kind) :
    arena.parents[root]? = some root := by
  rcases resolves.way with ⟨below, way⟩
  exact way.isTop

/-- Every slot of a forest has a root and a kind. -/
theorem Forest.exists_resolves
    (forest : arena.Forest)
    (inside : slot < arena.size) :
    ∃ root kind, arena.Resolves slot root kind := by
  rcases forest.exists_way inside with ⟨below, root, way⟩
  have rootInside := (Array.getElem?_eq_some_iff.1 way.isTop).1
  rw [forest.size_eq] at rootInside
  exact ⟨root, _, ⟨below, way⟩, Array.getElem?_eq_getElem rootInside⟩

/-! ## Classes that stay as they are -/

/-- No slot notices a change: each keeps its root and its kind. -/
structure SameClasses (before after : Arena) : Prop where
  kinds_eq : after.kinds = before.kinds
  forest : after.Forest
  resolves : ∀ slot root kind,
    before.Resolves slot root kind → after.Resolves slot root kind

theorem SameClasses.trans
    (first : before.SameClasses middle)
    (second : middle.SameClasses after) :
    before.SameClasses after where
  kinds_eq := second.kinds_eq.trans first.kinds_eq
  forest := second.forest
  resolves := fun slot root kind resolves =>
    second.resolves slot root kind (first.resolves slot root kind resolves)

/-- No slot notices that the slots of a way are pointed at its root. -/
theorem Forest.sameClasses_compress
    {below : List Nat}
    (forest : arena.Forest)
    (way : Way arena.parents slot below root) :
    arena.SameClasses (arena.compress below root) where
  kinds_eq := rfl
  forest := by
    refine forest_of_ways ?_ fun start inside => ?_
    · rw [compress, size_parents_pointAll, forest.size_eq]
    · rcases forest.exists_way inside with ⟨path, top, other⟩
      rcases way.pointAll other with ⟨shorter, kept, -⟩
      exact ⟨shorter, top, kept⟩
  resolves := by
    rintro start top known ⟨⟨path, other⟩, stored⟩
    rcases way.pointAll other with ⟨shorter, kept, -⟩
    exact ⟨⟨shorter, kept⟩, stored⟩

/-- Looking up the root of a slot finds it, and no slot notices. -/
theorem Forest.find
    (forest : arena.Forest)
    (resolves : arena.Resolves slot root kind) :
    ∃ after, Arena.find slot arena = .ok root after ∧
      arena.SameClasses after := by
  rcases resolves.way with ⟨below, way⟩
  exact ⟨_, way.find_eq, forest.sameClasses_compress way⟩

/-! ## A class that moves -/

/-- One class moves under the root of another, and no other slot notices. -/
structure Moves
    (before after : Arena) (low high : Nat) (kind : Kind) : Prop where
  kinds_eq : after.kinds = before.kinds
  forest : after.Forest
  followed : ∀ slot known,
    before.Resolves slot low known → after.Resolves slot high kind
  kept : ∀ slot root known, before.Resolves slot root known → root ≠ low →
    after.Resolves slot root known

theorem Forest.moves_setParent
    {low high : Nat}
    (forest : arena.Forest)
    (lowTop : arena.parents[low]? = some low)
    (highTop : arena.parents[high]? = some high)
    (stored : arena.kinds[high]? = some kind)
    (differ : low ≠ high) :
    arena.Moves (arena.setParent low high) low high kind where
  kinds_eq := rfl
  forest := by
    refine forest_of_ways ?_ fun slot inside => ?_
    · rw [setParent, Array.size_setIfInBounds, forest.size_eq]
    · rcases forest.exists_way inside with ⟨below, root, way⟩
      rcases way.setRoot lowTop highTop differ with ⟨path, moved⟩
      exact ⟨path, _, moved⟩
  followed := by
    rintro slot known ⟨⟨below, way⟩, -⟩
    rcases way.setRoot lowTop highTop differ with ⟨path, moved⟩
    rw [if_pos rfl] at moved
    exact ⟨⟨path, moved⟩, stored⟩
  kept := by
    rintro slot root known ⟨⟨below, way⟩, storedRoot⟩ other
    rcases way.setRoot lowTop highTop differ with ⟨path, kept⟩
    rw [if_neg other] at kept
    exact ⟨⟨path, kept⟩, storedRoot⟩

/-- What no slot noticed before a class moves is part of the move. -/
theorem SameClasses.moves
    {low high : Nat}
    (same : before.SameClasses middle)
    (moves : middle.Moves after low high kind) :
    before.Moves after low high kind where
  kinds_eq := moves.kinds_eq.trans same.kinds_eq
  forest := moves.forest
  followed := fun slot known resolves =>
    moves.followed slot known (same.resolves slot low known resolves)
  kept := fun slot root known resolves =>
    moves.kept slot root known (same.resolves slot root known resolves)

/-! ## Classes made to agree -/

/-- What two classes with given roots and kinds come to. -/
inductive Merges
    (arena : Arena) (site : Option Pos)
    (firstRoot secondRoot : Nat) (firstKind secondKind : Kind) :
    EStateM.Result TypeError Arena Unit → Prop where
  | unmoved
      {after : Arena}
      (equal : firstKind = secondKind)
      (same : arena.SameClasses after) :
      Merges arena site firstRoot secondRoot firstKind secondKind
        (.ok () after)
  | firstMoved
      {after : Arena}
      (unknown : firstKind = .unknown)
      (concrete : secondKind.isConcrete = true)
      (moves : arena.Moves after firstRoot secondRoot secondKind) :
      Merges arena site firstRoot secondRoot firstKind secondKind
        (.ok () after)
  | secondMoved
      {after : Arena}
      (concrete : firstKind.isConcrete = true)
      (unknown : secondKind = .unknown)
      (moves : arena.Moves after secondRoot firstRoot firstKind) :
      Merges arena site firstRoot secondRoot firstKind secondKind
        (.ok () after)
  | refused
      {after : Arena}
      (firstConcrete : firstKind.isConcrete = true)
      (secondConcrete : secondKind.isConcrete = true)
      (differ : firstKind ≠ secondKind)
      (same : arena.SameClasses after) :
      Merges arena site firstRoot secondRoot firstKind secondKind
        (.error ⟨.mismatch firstKind secondKind, site.getD .nowhere⟩ after)

theorem Forest.merges
    {firstRoot secondRoot : Nat}
    {firstKind secondKind : Kind}
    (forest : arena.Forest)
    (atFirst : arena.Resolves first firstRoot firstKind)
    (atSecond : arena.Resolves second secondRoot secondKind)
    (site : Option Pos) :
    Merges arena site firstRoot secondRoot firstKind secondKind
      (unify first second site arena) := by
  rcases forest.find atFirst with ⟨middle, findFirst, sameMiddle⟩
  have atSecondMiddle := sameMiddle.resolves _ _ _ atSecond
  rcases sameMiddle.forest.find atSecondMiddle with ⟨last, findSecond, sameLast⟩
  have same := sameMiddle.trans sameLast
  have atFirstLast := same.resolves _ _ _ atFirst
  have atSecondLast := same.resolves _ _ _ atSecond
  rw [unify_eq_of_find findFirst findSecond atFirstLast.stored
    atSecondLast.stored]
  split_ifs with sameRoot firstConcrete secondConcrete sameKind secondConcrete
  · subst sameRoot
    have sameKind := atFirst.stored.symm.trans atSecond.stored
    exact .unmoved (Option.some.inj sameKind) same
  · exact .unmoved sameKind same
  · exact .refused firstConcrete secondConcrete sameKind same
  · have unknown := Kind.eq_unknown_of_not_isConcrete secondConcrete
    have moves := sameLast.forest.moves_setParent atSecondLast.isTop
      atFirstLast.isTop atFirstLast.stored (Ne.symm sameRoot)
    exact .secondMoved firstConcrete unknown (same.moves moves)
  · have unknown := Kind.eq_unknown_of_not_isConcrete firstConcrete
    have moves := sameLast.forest.moves_setParent atFirstLast.isTop
      atSecondLast.isTop atSecondLast.stored sameRoot
    exact .firstMoved unknown secondConcrete (same.moves moves)
  · have firstUnknown := Kind.eq_unknown_of_not_isConcrete firstConcrete
    have secondUnknown := Kind.eq_unknown_of_not_isConcrete secondConcrete
    exact .unmoved (firstUnknown.trans secondUnknown.symm) same

/--
Making two slots agree succeeds unless both kinds are concrete and differ.  An
unknown class moves under a concrete one and takes its root and kind.  In all
other cases, failure among them, every slot keeps its root and kind, and so do
the slots outside the two classes in any case.
-/
structure MadeToAgree
    (arena : Arena) (site : Option Pos)
    (firstRoot secondRoot : Nat) (firstKind secondKind : Kind)
    (outcome : EStateM.Result TypeError Arena Unit) : Prop where
  succeeds_iff :
    (∃ after, outcome = .ok () after) ↔
      firstKind = secondKind ∨ firstKind = .unknown ∨ secondKind = .unknown
  fails : ∀ error after, outcome = .error error after →
    error = ⟨.mismatch firstKind secondKind, site.getD .nowhere⟩ ∧
      arena.SameClasses after
  first_moves : firstKind = .unknown → secondKind.isConcrete = true →
    ∀ slot root kind, arena.Resolves slot root kind →
      root = firstRoot ∨ root = secondRoot →
        (finalState outcome).Resolves slot secondRoot secondKind
  second_moves : firstKind.isConcrete = true → secondKind = .unknown →
    ∀ slot root kind, arena.Resolves slot root kind →
      root = firstRoot ∨ root = secondRoot →
        (finalState outcome).Resolves slot firstRoot firstKind
  unmoved : firstKind.isConcrete = secondKind.isConcrete →
    ∀ slot root kind, arena.Resolves slot root kind →
      (finalState outcome).Resolves slot root kind
  outside : ∀ slot root kind, arena.Resolves slot root kind →
    root ≠ firstRoot → root ≠ secondRoot →
      (finalState outcome).Resolves slot root kind
  kinds_eq : (finalState outcome).kinds = arena.kinds
  forest : (finalState outcome).Forest

/-- A class that moves joins the class of the root that it moves under. -/
theorem Moves.joined
    {low high : Nat}
    (moves : before.Moves after low high kind)
    (stored : before.kinds[high]? = some kind)
    (differ : low ≠ high)
    (resolves : before.Resolves slot root known)
    (either : root = low ∨ root = high) :
    after.Resolves slot high kind := by
  rcases either with rfl | rfl
  · exact moves.followed slot known resolves
  · cases resolves.stored.symm.trans stored
    exact moves.kept slot root kind resolves (Ne.symm differ)

/-- Roots that store different kinds are different. -/
theorem ne_of_stored
    (firstStored : arena.kinds[root]? = some kind)
    (secondStored : arena.kinds[top]? = some known)
    (differ : kind ≠ known) :
    root ≠ top := by
  rintro rfl
  exact differ (Option.some.inj (firstStored.symm.trans secondStored))

theorem Merges.madeToAgree
    {site : Option Pos}
    {firstRoot secondRoot : Nat}
    {firstKind secondKind : Kind}
    {outcome : EStateM.Result TypeError Arena Unit}
    (merges : Merges arena site firstRoot secondRoot firstKind secondKind
      outcome)
    (firstStored : arena.kinds[firstRoot]? = some firstKind)
    (secondStored : arena.kinds[secondRoot]? = some secondKind) :
    MadeToAgree arena site firstRoot secondRoot firstKind secondKind
      outcome := by
  have nothing : Kind.unknown.isConcrete = false := rfl
  cases merges with
  | unmoved equal same =>
      subst equal
      exact
        { succeeds_iff := ⟨fun _ => .inl rfl, fun _ => ⟨_, rfl⟩⟩
          fails := nofun
          first_moves := by
            rintro rfl concrete
            cases concrete
          second_moves := by
            rintro concrete rfl
            cases concrete
          unmoved := fun _ => same.resolves
          outside := fun slot root kind resolves _ _ =>
            same.resolves slot root kind resolves
          kinds_eq := same.kinds_eq
          forest := same.forest }
  | firstMoved unknown concrete moves =>
      subst unknown
      have differ := ne_of_stored firstStored secondStored (by
        rintro rfl
        cases concrete)
      exact
        { succeeds_iff := ⟨fun _ => .inr (.inl rfl), fun _ => ⟨_, rfl⟩⟩
          fails := nofun
          first_moves := fun _ _ _ _ _ => moves.joined secondStored differ
          second_moves := nofun
          unmoved := fun same => absurd (same.trans concrete) Bool.false_ne_true
          outside := fun slot root kind resolves other _ =>
            moves.kept slot root kind resolves other
          kinds_eq := moves.kinds_eq
          forest := moves.forest }
  | secondMoved concrete unknown moves =>
      subst unknown
      have differ := ne_of_stored secondStored firstStored (by
        rintro rfl
        cases concrete)
      exact
        { succeeds_iff := ⟨fun _ => .inr (.inr rfl), fun _ => ⟨_, rfl⟩⟩
          fails := nofun
          first_moves := nofun
          second_moves := fun _ _ _ _ _ resolves either =>
            moves.joined firstStored differ resolves either.symm
          unmoved := fun same =>
            absurd (same.symm.trans concrete) Bool.false_ne_true
          outside := fun slot root kind resolves _ other =>
            moves.kept slot root kind resolves other
          kinds_eq := moves.kinds_eq
          forest := moves.forest }
  | refused firstConcrete secondConcrete differ same =>
      exact
        { succeeds_iff := by
            constructor
            · rintro ⟨after, succeeds⟩
              cases succeeds
            · rintro (equal | rfl | rfl)
              · exact (differ equal).elim
              · cases firstConcrete
              · cases secondConcrete
          fails := by
            rintro error after ⟨⟩
            exact ⟨rfl, same⟩
          first_moves := by
            rintro rfl
            cases firstConcrete
          second_moves := by
            rintro - rfl
            cases secondConcrete
          unmoved := fun _ => same.resolves
          outside := fun slot root kind resolves _ _ =>
            same.resolves slot root kind resolves
          kinds_eq := same.kinds_eq
          forest := same.forest }

/--
In a forest of any shape two slots have a root and a kind each, and what
becomes of all slots when the two are made to agree is decided by these.
-/
theorem classes_made_to_agree
    (forest : arena.Forest)
    (firstInside : first < arena.size)
    (secondInside : second < arena.size)
    (site : Option Pos) :
    ∃ firstRoot secondRoot firstKind secondKind,
      arena.Resolves first firstRoot firstKind ∧
        arena.Resolves second secondRoot secondKind ∧
          MadeToAgree arena site firstRoot secondRoot firstKind secondKind
            (unify first second site arena) := by
  rcases forest.exists_resolves firstInside with
    ⟨firstRoot, firstKind, atFirst⟩
  rcases forest.exists_resolves secondInside with
    ⟨secondRoot, secondKind, atSecond⟩
  have merges := forest.merges atFirst atSecond site
  exact ⟨firstRoot, secondRoot, firstKind, secondKind, atFirst, atSecond,
    merges.madeToAgree atFirst.stored atSecond.stored⟩

/-- Two deep trees, in which slots that are no roots store kinds as well. -/
theorem classes_made_to_agree_deep :
    ∃ arena : Arena,
      arena =
        ⟨#[.unknown, .int, ⟨"text"⟩, .unknown, ⟨"text"⟩, .unknown],
          #[0, 1, 0, 2, 1, 4]⟩ ∧
      arena.Forest ∧ 3 < arena.size ∧ 5 < arena.size ∧
      unify 3 5 none arena = .ok () ⟨arena.kinds, #[1, 1, 0, 0, 1, 1]⟩ ∧
      ∃ firstRoot secondRoot firstKind secondKind,
        arena.Resolves 3 firstRoot firstKind ∧
          arena.Resolves 5 secondRoot secondKind ∧
            MadeToAgree arena none firstRoot secondRoot firstKind secondKind
              (unify 3 5 none arena) := by
  refine ⟨_, rfl, by decide, by decide, by decide, rfl, ?_⟩
  exact classes_made_to_agree (by decide) (by decide) (by decide) none

end Arena

end Sprig
