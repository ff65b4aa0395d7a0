import Sprig.Json.Basic
import Sprig.Typing.Check

/-!
# Checked functions

The outcome of a check is the function with its final scope and arena, from
which the kind of every name can be read.
-/

namespace Sprig

/-- A function whose check succeeded. -/
structure Checked where
  function : Function
  scope : Scope Declared
  arena : Arena
  deriving DecidableEq, Repr

namespace Checked

/-- The kind of the newest binding of a name. -/
def kindOf? (checked : Checked) (name : String) : Option Kind :=
  (checked.scope.get? name).map fun declared =>
    checked.arena.kindOf declared.slot

/-- The visible names with their kinds, in the order of declaration. -/
def kinds (checked : Checked) : List (String × Kind) :=
  checked.scope.visible.map fun (name, declared) =>
    (name, checked.arena.kindOf declared.slot)

/-- The kinds of a function as JSON. -/
def toJson (checked : Checked) : Json :=
  .obj
    [ ("function", .str checked.function.name),
      ( "bindings",
        .obj (checked.kinds.map fun (name, kind) => (name, .str kind.name)) ) ]

end Checked

/-- The outcome of a check from its start. -/
def Function.check
    (function : Function)
    (allowUnresolved : Bool) :
    Except TypeError Checked :=
  match Check.program function allowUnresolved .initial with
  | .ok () state => .ok ⟨function, state.scope, state.arena⟩
  | .error error _ => .error error

end Sprig
