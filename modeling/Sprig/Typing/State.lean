import Sprig.Scope
import Sprig.Typing.Arena

/-!
# The state of a check

Each declared name is bound to a slot of an arena, together with the position
of the declaration that bound it.  A scope thus says both where the kind of a
name is found and whom to blame if there is none.  Beside scope and arena the
state keeps the kinds that a return statement must deliver.
-/

namespace Sprig

/-- What a declaration binds a name to. -/
structure Declared where
  slot : Nat
  pos : Pos
  deriving DecidableEq, Repr, Inhabited

/-- What is known in the middle of a check. -/
structure CheckState where
  arena : Arena
  scope : Scope Declared
  rets : List Kind
  deriving DecidableEq, Repr, Inhabited

/-- Actions of a check.  A failed action keeps what it has changed. -/
abbrev Check := EStateM TypeError CheckState

namespace CheckState

/-- Nothing is declared. -/
def initial : CheckState :=
  ⟨.empty, .empty, []⟩

/-- The position of the declaration that entered a slot into scope. -/
def declPos? (state : CheckState) (slot : Nat) : Option Pos :=
  (state.scope.toList.find? (·.2.slot = slot)).map (·.2.pos)

end CheckState

namespace Check

variable {α : Type}

/-- An action on the arena alone. -/
def onArena (action : ArenaM α) : Check α := fun state =>
  match action state.arena with
  | .ok result arena => .ok result { state with arena }
  | .error error arena => .error error { state with arena }

/-- A failure charged to a position. -/
def fail (fault : TypeFault) (pos : Pos) : Check α :=
  throw ⟨fault, pos⟩

/-- A name bound to a fresh slot of the given kind. -/
def declare (name : String) (kind : Kind) (pos : Pos) : Check Nat := do
  let slot ← onArena (Arena.new kind)
  modify fun state =>
    { state with scope := state.scope.insert name ⟨slot, pos⟩ }
  return slot

/-- The slot of a name, which must be declared. -/
def lookup (name : String) (pos : Pos) : Check Nat := do
  match (← get).scope.get? name with
  | some declared => return declared.slot
  | none => fail (.undeclared name) pos

/-- The kinds that the return statements to come must deliver. -/
def setRets (kinds : List Kind) : Check Unit :=
  modify fun state => { state with rets := kinds }

end Check

end Sprig
