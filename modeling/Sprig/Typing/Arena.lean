import Sprig.Typing.Error

/-!
# Arenas of kinds

An arena holds slots, each of which stores a kind and points at a parent slot.
A slot that points at itself is a root, and the kind of a slot is the kind
stored at the root above it.

Two slots are made to agree by pointing the root of unknown kind at the
concrete one, whose kind then serves every slot of both classes.  Two roots of
unknown kind stay apart, and two concrete kinds must be equal.  Looking up a
root shortens the way: afterwards every slot on it points at the root.

The actions keep what they have changed when they fail.
-/

namespace Sprig

/-- Slots with their stored kinds and their parents. -/
structure Arena where
  kinds : Array Kind
  parents : Array Nat
  deriving DecidableEq, Repr, Inhabited

/-- Actions on an arena. -/
abbrev ArenaM := EStateM TypeError Arena

namespace Arena

/-- The arena without slots. -/
def empty : Arena :=
  ⟨#[], #[]⟩

/-- The number of slots. -/
def size (arena : Arena) : Nat :=
  arena.kinds.size

/--
The slots on the way from a slot to the root above it, and the root.  There is
no answer when the way leaves the array or is longer than `steps` slots.
-/
def climb
    (parents : Array Nat) :
    (steps : Nat) → Nat → Option (List Nat × Nat)
  | 0, _ => none
  | steps + 1, slot =>
    match parents[slot]? with
    | none => none
    | some parent =>
      if parent = slot then
        some ([], slot)
      else
        (climb parents steps parent).map fun (below, root) =>
          (slot :: below, root)

/-- The way from a slot to its root; no way visits more slots than there are. -/
def way? (arena : Arena) (slot : Nat) : Option (List Nat × Nat) :=
  climb arena.parents arena.parents.size slot

/-- The root above a slot. -/
def root? (arena : Arena) (slot : Nat) : Option Nat :=
  (arena.way? slot).map Prod.snd

/-- The kind of a slot, which its root stores. -/
def kind? (arena : Arena) (slot : Nat) : Option Kind :=
  (arena.root? slot).bind fun root => arena.kinds[root]?

/-- The kind of a slot; nothing is known of one outside the arena. -/
def kindOf (arena : Arena) (slot : Nat) : Kind :=
  (arena.kind? slot).getD .unknown

/-- Parents with every listed slot pointed at one root. -/
def pointAll
    (parents : Array Nat)
    (slots : List Nat)
    (root : Nat) :
    Array Nat :=
  slots.foldl (fun parents slot => parents.setIfInBounds slot root) parents

/-- One slot pointed at another. -/
def setParent (arena : Arena) (slot parent : Nat) : Arena :=
  { arena with parents := arena.parents.setIfInBounds slot parent }

/-- A fresh slot, which is its own root. -/
def new (kind : Kind) : ArenaM Nat := fun arena =>
  .ok arena.size
    { kinds := arena.kinds.push kind
      parents := arena.parents.push arena.size }

/-- The root above a slot, at which the whole way then points. -/
def find (slot : Nat) : ArenaM Nat := fun arena =>
  match arena.way? slot with
  | none => .error ⟨.noSuchSlot, .nowhere⟩ arena
  | some (below, root) =>
    .ok root { arena with parents := pointAll arena.parents below root }

/-- The kind stored at a slot itself. -/
def stored (slot : Nat) : ArenaM Kind := fun arena =>
  match arena.kinds[slot]? with
  | none => .error ⟨.noSuchSlot, .nowhere⟩ arena
  | some kind => .ok kind arena

/-- The kind of a slot. -/
def get (slot : Nat) : ArenaM Kind := do
  let root ← find slot
  stored root

/-- One root placed under another. -/
def link (root above : Nat) : ArenaM Unit :=
  modify (·.setParent root above)

/--
Two slots made to agree.  The first is the one whose kind is expected, and a
fault is charged to the site, if there is one.
-/
def unify (first second : Nat) (site : Option Pos) : ArenaM Unit := do
  let firstRoot ← find first
  let secondRoot ← find second
  if firstRoot = secondRoot then
    pure ()
  else
    let firstKind ← stored firstRoot
    let secondKind ← stored secondRoot
    if firstKind.isConcrete then
      if secondKind.isConcrete then
        if firstKind = secondKind then
          pure ()
        else
          throw ⟨.mismatch firstKind secondKind, site.getD .nowhere⟩
      else
        link secondRoot firstRoot
    else if secondKind.isConcrete then
      link firstRoot secondRoot
    else
      pure ()

@[simp]
theorem size_parents_pointAll
    (parents : Array Nat)
    (slots : List Nat)
    (root : Nat) :
    (pointAll parents slots root).size = parents.size := by
  induction slots generalizing parents with
  | nil => rfl
  | cons slot slots ih =>
    exact (ih _).trans Array.size_setIfInBounds

end Arena

end Sprig
