import Sprig.Proofs.Scope
import Sprig.Syntax.Basic
import Sprig.Typing.Error

/-!
# A checker without slots

The reference checker keeps a ledger: one entry for each binding, in the order
of declaration, and the number of values that a return must deliver.  An entry
says what it binds, where it was declared, and whether it is known to be an
`int`; nothing else can be known, since `int` is the only type.

Knowledge moves between two operands in one way only.  If one of them is an
`int`, a literal or an entry that is known, then the other is one from now on.
Two entries about which nothing is known stay as they are, and learning about
one of them later says nothing about the other.
-/

namespace Sprig

/-- A binding as the reference keeps it. -/
structure Entry where
  name : String
  pos : Pos
  known : Bool
  deriving DecidableEq, Repr

/-- The bindings, oldest first, and the number of values to return. -/
structure Ledger where
  entries : List Entry
  promised : Nat
  deriving DecidableEq, Repr

/-- What a single value denotes: an `int`, or the binding at an index. -/
inductive Operand where
  | literal
  | entry (index : Nat)
  deriving DecidableEq, Repr

/-- What is known of an entry, as a kind. -/
def Entry.kind (entry : Entry) : Kind :=
  if entry.known then .int else .unknown

namespace Ledger

/-- Nothing is bound and nothing promised. -/
def initial : Ledger :=
  ⟨[], 0⟩

/-- Whether an operand is known to be an `int`. -/
def isInt (ledger : Ledger) : Operand → Bool
  | .literal => true
  | .entry index => ledger.entries[index]?.any Entry.known

/-- The ledger in which an operand is known to be an `int`. -/
def settle (ledger : Ledger) : Operand → Ledger
  | .literal => ledger
  | .entry index =>
      { ledger with
        entries := ledger.entries.modify index fun entry =>
          { entry with known := true } }

/-- What is known of one operand becomes known of the other. -/
def pair (ledger : Ledger) (first second : Operand) : Ledger :=
  if ledger.isInt first then
    ledger.settle second
  else if ledger.isInt second then
    ledger.settle first
  else
    ledger

/-- The visible names and their kinds, in the order of declaration. -/
def kinds (ledger : Ledger) : List (String × Kind) :=
  (unshadowed Entry.name ledger.entries).map fun entry =>
    (entry.name, entry.kind)

end Ledger

/-- Actions of the reference checker. -/
abbrev Reference := EStateM TypeError Ledger

namespace Reference

/-- The index of the newest entry of a name. -/
def newest? (name : String) : List Entry → Option Nat
  | [] => none
  | entry :: others =>
      match newest? name others with
      | some index => some (index + 1)
      | none => if entry.name = name then some 0 else none

/-- What a name denotes at this point. -/
def lookup (name : String) (pos : Pos) : Reference Operand := do
  match newest? name (← get).entries with
  | some index => return .entry index
  | none => throw ⟨.undeclared name, pos⟩

/-- One more entry. -/
def declare (name : String) (pos : Pos) (known : Bool) : Reference Operand := do
  let index := (← get).entries.length
  modify fun ledger =>
    { ledger with entries := ledger.entries ++ [⟨name, pos, known⟩] }
  return .entry index

/-- Two operands paired. -/
def pair (first second : Operand) : Reference Unit :=
  modify fun ledger => ledger.pair first second

/-- The only annotation there is. -/
def intType (type : TypeRef) : Reference Unit := do
  if type.name = "int" then
    return ()
  else
    throw ⟨.unknownType type.name, type.pos⟩

/-- Whether a declaration says what its names are. -/
def annotated (decl : Decl) : Reference Bool := do
  match decl.type with
  | some type =>
      intType type
      return true
  | none => return false

/-- What a single value denotes. -/
def operand : Expr → Reference Operand
  | .intLit _ _ => return .literal
  | .var pos name => lookup name pos
  | .tuple pos _ => throw ⟨.nestedTuple, pos⟩
  | .bare pos => throw ⟨.bareExpr, pos⟩

/-- What the parts of a value denote: the elements of a tuple, or itself. -/
def operands : Expr → Reference (List Operand)
  | .tuple _ elements => elements.mapM operand
  | .intLit _ _ => return [.literal]
  | .var pos name => do return [← lookup name pos]
  | .bare pos => throw ⟨.bareExpr, pos⟩

/-- The parts of a value are its components. -/
theorem operands_eq (value : Expr) :
    operands value = value.components.mapM operand := by
  cases value with
  | tuple pos elements => rfl
  | intLit pos text => rfl
  | var pos name => rfl
  | bare pos => rfl

/-- As many values as there are receivers. -/
def arity
    (place : Pairing)
    (expected found : Nat)
    (pos : Pos) :
    Reference Unit := do
  if found = expected then
    return ()
  else
    throw ⟨.arity place expected found, pos⟩

/-- A name declared and paired with the first of the operands that are left. -/
def bindName
    (name : String)
    (pos : Pos)
    (known : Bool)
    (values : List Operand) :
    Reference (List Operand) := do
  let binding ← declare name pos known
  match values with
  | [] => return []
  | value :: others =>
      pair binding value
      return others

/-- The names of one declaration. -/
def bindDecl
    (decl : Decl)
    (values : List Operand) :
    Reference (List Operand) := do
  let known ← annotated decl
  decl.idents.foldlM
    (fun values name => bindName name decl.pos known values)
    values

/-- What the names of a declaration are paired with, if there is anything. -/
def initializers
    (pos : Pos)
    (decls : List Decl) :
    Option Expr → Reference (List Operand)
  | none => return []
  | some value => do
    let values ← operands value
    arity .declaration (decls.flatMap Decl.idents).length values.length pos
    return values

/-- A declaration. -/
def declStmt
    (pos : Pos)
    (decls : List Decl)
    (value : Option Expr) :
    Reference Unit := do
  let values ← initializers pos decls value
  discard <| decls.foldlM (fun values decl => bindDecl decl values) values

/-- An assignment. -/
def assignStmt
    (pos : Pos)
    (names : List String)
    (value : Expr) :
    Reference Unit := do
  let targets ← names.mapM fun name => lookup name pos
  let values ← operands value
  arity .assignment targets.length values.length pos
  (targets.zip values).forM fun both => pair both.1 both.2

/-- A return, whose values meet as many promised `int`s. -/
def returnStmt (pos : Pos) (value : Expr) : Reference Unit := do
  let values ← operands value
  arity .ret (← get).promised values.length pos
  values.forM fun value => pair .literal value

/-- One statement. -/
def stmt : Stmt → Reference Unit
  | .decl pos decls value => declStmt pos decls value
  | .assign pos names value => assignStmt pos names value
  | .ret pos value => returnStmt pos value
  | .bare pos => throw ⟨.bareStmt, pos⟩

/-- One group of parameters. -/
def param (decl : Decl) : Reference Unit := do
  let known ← annotated decl
  decl.idents.forM fun name => discard (declare name decl.pos known)

/-- No visible entry is left unknown. -/
def resolved : Reference Unit := do
  (unshadowed Entry.name (← get).entries).forM fun entry =>
    if entry.known then
      return ()
    else
      throw ⟨.unresolved entry.name, entry.pos⟩

/-- Parameters, promised values and body of a function. -/
def function (function : Function) : Reference Unit := do
  function.params.forM param
  function.rets.forM intType
  modify fun ledger => { ledger with promised := function.rets.length }
  function.body.forM stmt

/-- A whole function, with unresolved names allowed or not. -/
def program (code : Function) (allowUnresolved : Bool) : Reference Unit := do
  function code
  if allowUnresolved then
    return ()
  else
    resolved

/-- The final ledger of a function, or the first fault in it. -/
def check
    (code : Function)
    (allowUnresolved : Bool) :
    Except TypeError Ledger :=
  match program code allowUnresolved .initial with
  | .ok () ledger => .ok ledger
  | .error error _ => .error error

end Reference

end Sprig
