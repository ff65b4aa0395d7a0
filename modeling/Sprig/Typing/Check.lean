import Sprig.Syntax.Basic
import Sprig.Typing.State

/-!
# Typing

Statements are checked in order.  Each pairs the components of its value with
what receives them, and every pair is made to agree in the arena:

* a declaration pairs them with the slots of the new names, which are bound
  only after the value has been typed;
* an assignment pairs them with the slots of its targets;
* a return pairs them with fresh slots of the kinds that the function
  promises.

The counts must be equal before the first pair is made to agree.  At the end
every name that is still visible needs a concrete kind, unless unresolved
names are allowed.
-/

namespace Sprig

namespace Check

/-- The kind that an annotation names. -/
def convert (type : TypeRef) : Check Kind :=
  match Kind.ofName? type.name with
  | some kind => return kind
  | none => fail (.unknownType type.name) type.pos

/-- The kind with which the names of a declaration start. -/
def declaredKind (decl : Decl) : Check Kind :=
  match decl.type with
  | some type => convert type
  | none => return .unknown

/-- The slot of a single value. -/
def slotOf : Expr → Check Nat
  | .intLit _ _ => onArena (Arena.new .int)
  | .var pos name => lookup name pos
  | .tuple pos _ => fail .nestedTuple pos
  | .bare pos => fail .bareExpr pos

/-- The slots of the components of a value. -/
def slotsOf (value : Expr) : Check (List Nat) :=
  value.components.mapM slotOf

/-- Equal counts of values and of what receives them. -/
def checkArity
    (place : Pairing)
    (expected found : Nat)
    (pos : Pos) :
    Check Unit :=
  if found = expected then
    return ()
  else
    fail (.arity place expected found) pos

/-- Two slots made to agree in the statement at a position. -/
def agree (first second : Nat) (site : Pos) : Check Unit :=
  onArena (Arena.unify first second (some site))

/--
A name declared and, if a value is left for it, made to agree with that value.
The values for the names that follow are returned.
-/
def bindName
    (name : String)
    (kind : Kind)
    (pos site : Pos)
    (values : List Nat) :
    Check (List Nat) := do
  let slot ← declare name kind pos
  match values with
  | [] => return []
  | value :: others =>
    agree slot value site
    return others

/-- The names of one declaration bound one by one. -/
def bindDecl
    (decl : Decl)
    (site : Pos)
    (values : List Nat) :
    Check (List Nat) := do
  let kind ← declaredKind decl
  decl.idents.foldlM
    (fun values name => bindName name kind decl.pos site values)
    values

/-- The number of names in a list of declarations. -/
def nameCount (decls : List Decl) : Nat :=
  decls.foldl (fun count decl => count + decl.idents.length) 0

/-- The slots of an initializer, one for each name; none if there is none. -/
def initializers
    (pos : Pos)
    (decls : List Decl) :
    Option Expr → Check (List Nat)
  | none => return []
  | some value => do
    let values ← slotsOf value
    checkArity .declaration (nameCount decls) values.length pos
    return values

/-- A declaration with its initializer. -/
def declStmt
    (pos : Pos)
    (decls : List Decl)
    (value : Option Expr) :
    Check Unit := do
  let values ← initializers pos decls value
  discard <| decls.foldlM (fun values decl => bindDecl decl pos values) values

/-- An assignment. -/
def assignStmt
    (pos : Pos)
    (names : List String)
    (value : Expr) :
    Check Unit := do
  let targets ← names.mapM fun name => lookup name pos
  let values ← slotsOf value
  checkArity .assignment targets.length values.length pos
  (targets.zip values).forM fun (target, value) => agree target value pos

/-- A return. -/
def returnStmt (pos : Pos) (value : Expr) : Check Unit := do
  let values ← slotsOf value
  let rets := (← get).rets
  checkArity .ret rets.length values.length pos
  (rets.zip values).forM fun (kind, value) => do
    let expected ← onArena (Arena.new kind)
    agree expected value pos

/-- One statement. -/
def stmt : Stmt → Check Unit
  | .decl pos decls value => declStmt pos decls value
  | .assign pos names value => assignStmt pos names value
  | .ret pos value => returnStmt pos value
  | .bare pos => fail .bareStmt pos

/-- The names of one group of parameters. -/
def param (decl : Decl) : Check Unit := do
  let kind ← declaredKind decl
  decl.idents.forM fun name => discard (declare name kind decl.pos)

/-- Parameters, promised kinds and body of a function. -/
def function (function : Function) : Check Unit := do
  function.params.forM param
  let kinds ← function.rets.mapM convert
  setRets kinds
  function.body.forM stmt

/-- A concrete kind for every name that is still visible. -/
def resolved : Check Unit := do
  (← get).scope.visible.forM fun (name, declared) => do
    let kind ← onArena (Arena.get declared.slot)
    if kind.isConcrete then
      return ()
    else
      fail (.unresolved name) declared.pos

/-- A whole function, with unresolved names allowed or not. -/
def program (code : Function) (allowUnresolved : Bool) : Check Unit := do
  function code
  if allowUnresolved then
    return ()
  else
    resolved

end Check

end Sprig
