/-!
# Persistent scopes

A scope is a chain of bindings, the newest in front.  Binding a name never
touches the chain behind it: whoever holds an older scope keeps seeing exactly
what it held, while a look-up through the newer one finds the newer binding.

Three views of a chain are at hand.  `toList` shows every binding, `get?`
answers for one name, and `visible` lists the bindings that a look-up can
still reach, in the order in which they were made.
-/

namespace Sprig

/-- Names with values, newest first. -/
inductive Scope (α : Type) where
  | empty
  | bind (outer : Scope α) (name : String) (value : α)
  deriving DecidableEq, Repr, Inhabited

namespace Scope

variable {α β : Type}

/-- The scope with one more binding in front. -/
def insert (scope : Scope α) (name : String) (value : α) : Scope α :=
  .bind scope name value

/-- The value of the newest binding of a name. -/
def get? : Scope α → String → Option α
  | empty, _ => none
  | bind outer bound value, name =>
    if bound = name then some value else outer.get? name

/-- Whether a name is bound at all. -/
def contains (scope : Scope α) (name : String) : Bool :=
  (scope.get? name).isSome

/-- The number of bindings, shadowed ones included. -/
def size : Scope α → Nat
  | empty => 0
  | bind outer _ _ => outer.size + 1

/-- Every binding, shadowed ones included, newest first. -/
def toList : Scope α → List (String × α)
  | empty => []
  | bind outer name value => (name, value) :: outer.toList

/-- The same names with other values. -/
def map (change : α → β) : Scope α → Scope β
  | empty => empty
  | bind outer name value => bind (outer.map change) name (change value)

/-- The bindings whose names neither were seen nor come earlier in the list. -/
def firstOccurrences
    (seen : List String) :
    List (String × α) → List (String × α)
  | [] => []
  | (name, value) :: rest =>
    if seen.contains name then
      firstOccurrences seen rest
    else
      (name, value) :: firstOccurrences (name :: seen) rest

/-- The bindings that none shadows, oldest first. -/
def visible (scope : Scope α) : List (String × α) :=
  (firstOccurrences [] scope.toList).reverse

/-- A scope of slot numbers in one line, newest first. -/
def describe (scope : Scope Int) : String :=
  let bindings :=
    scope.toList.map fun (name, slot) => name ++ "=#" ++ toString slot
  "Scope(" ++ ", ".intercalate bindings ++ ")"

@[simp]
theorem toList_insert
    (scope : Scope α)
    (name : String)
    (value : α) :
    (scope.insert name value).toList = (name, value) :: scope.toList := rfl

@[simp]
theorem get?_insert
    (scope : Scope α)
    (bound name : String)
    (value : α) :
    (scope.insert bound value).get? name =
      if bound = name then some value else scope.get? name := rfl

@[simp]
theorem toList_map (change : α → β) (scope : Scope α) :
    (scope.map change).toList =
      scope.toList.map fun (name, value) => (name, change value) := by
  induction scope with
  | empty => rfl
  | bind outer name value ih => simp [map, toList, ih]

example : (empty.insert "a" 0 |>.insert "b" 1).describe =
    "Scope(b=#1, a=#0)" := by
  decide +kernel

example : (empty.insert "a" 0 |>.insert "b" 1 |>.insert "a" 2).visible =
    [("b", 1), ("a", 2)] := rfl

end Scope

end Sprig
