import Sprig.Text.Position
import Sprig.Typing.Kind

/-!
# Faults of typing

A fault is a cause together with the position that it is charged to.  The
wording of each cause is given once, by `TypeFault.message`.
-/

namespace Sprig

/-- The places where values are matched with what receives them. -/
inductive Pairing where
  | declaration
  | assignment
  | ret
  deriving DecidableEq, Repr

/-- Why a function is ill typed. -/
inductive TypeFault where
  /-- The counts of values and of what receives them differ. -/
  | arity (place : Pairing) (expected found : Nat)
  /-- A name is read or assigned that no declaration binds. -/
  | undeclared (name : String)
  /-- Two concrete kinds meet that differ. -/
  | mismatch (expected found : Kind)
  /-- An annotation names no kind. -/
  | unknownType (name : String)
  /-- A visible name is left without a concrete kind. -/
  | unresolved (name : String)
  /-- A tuple stands where a single value is needed. -/
  | nestedTuple
  /-- An expression of no form. -/
  | bareExpr
  /-- A statement of no form. -/
  | bareStmt
  /-- A slot lies outside the arena. -/
  | noSuchSlot
  deriving DecidableEq, Repr

/-- A fault with its position. -/
structure TypeError where
  fault : TypeFault
  pos : Pos
  deriving DecidableEq, Repr

/-- The place as a message names it. -/
def Pairing.name : Pairing → String
  | declaration => "declaration"
  | assignment => "assignment"
  | ret => "return"

/-- The class of a fault, as a diagnostic line names it. -/
def TypeFault.category : TypeFault → String
  | arity .. => "ArityMismatch"
  | undeclared _ => "UndeclaredIdentifier"
  | mismatch .. => "TypeMismatch"
  | unknownType _ => "UnknownTypeName"
  | unresolved _ => "UnresolvedType"
  | nestedTuple => "UnsupportedConstruct"
  | bareExpr => "UnsupportedConstruct"
  | bareStmt => "UnsupportedConstruct"
  | noSuchSlot => "NoSuchSlot"

/-- The wording of a fault. -/
def TypeFault.message : TypeFault → String
  | arity place expected found =>
    place.name ++ " arity mismatch: expected " ++ toString expected ++
      " value(s), found " ++ toString found
  | undeclared name => "undeclared identifier '" ++ name ++ "'"
  | mismatch expected found =>
    "type mismatch: expected " ++ expected.name ++ ", found " ++ found.name
  | unknownType name => "unknown type '" ++ name ++ "'"
  | unresolved name => "type of '" ++ name ++ "' could not be inferred"
  | nestedTuple => "nested tuples are not supported"
  | bareExpr => "unhandled expression TExpr"
  | bareStmt => "unhandled statement TStmt"
  | noSuchSlot => "no such slot"

end Sprig
