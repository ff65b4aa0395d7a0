import Sprig.Text.Position

/-!
# Syntax trees

A program is one function: a name, groups of parameters, the types of its
results and a list of statements.  Every node carries the position of the
first character of its text.

The trees are wider than the language.  A declaration may lack both its type
and its initializer, tuples may be nested, empty or single, lists of names may
be empty, and a statement or an expression may be `bare`, which is a node of
no form at all.  Reading a source yields none of these; a program that builds
its trees by hand may hand them to the checker.
-/

namespace Sprig

/-- The name of a type as it is written. -/
structure TypeRef where
  pos : Pos
  name : String
  deriving DecidableEq, Repr, Inhabited

/-- Names that share an annotation, or have none. -/
structure Decl where
  pos : Pos
  idents : List String
  type : Option TypeRef
  deriving DecidableEq, Repr, Inhabited

/-- What has a value, or several values at once. -/
inductive Expr where
  | intLit (pos : Pos) (text : String)
  | var (pos : Pos) (name : String)
  | tuple (pos : Pos) (elements : List Expr)
  | bare (pos : Pos)
  deriving Repr, Inhabited

mutual

/-- Equality of expressions, decided along both trees. -/
def Expr.decEq : (first second : Expr) → Decidable (first = second)
  | .intLit pos text, .intLit pos' text' =>
    decidable_of_iff (pos = pos' ∧ text = text') (by simp)
  | .var pos name, .var pos' name' =>
    decidable_of_iff (pos = pos' ∧ name = name') (by simp)
  | .tuple pos elements, .tuple pos' elements' =>
    have := Expr.decEqList elements elements'
    decidable_of_iff (pos = pos' ∧ elements = elements') (by simp)
  | .bare pos, .bare pos' =>
    decidable_of_iff (pos = pos') (by simp)
  | .intLit .., .var .. => isFalse nofun
  | .intLit .., .tuple .. => isFalse nofun
  | .intLit .., .bare .. => isFalse nofun
  | .var .., .intLit .. => isFalse nofun
  | .var .., .tuple .. => isFalse nofun
  | .var .., .bare .. => isFalse nofun
  | .tuple .., .intLit .. => isFalse nofun
  | .tuple .., .var .. => isFalse nofun
  | .tuple .., .bare .. => isFalse nofun
  | .bare .., .intLit .. => isFalse nofun
  | .bare .., .var .. => isFalse nofun
  | .bare .., .tuple .. => isFalse nofun

/-- Equality of lists of expressions, element by element. -/
def Expr.decEqList : (first second : List Expr) → Decidable (first = second)
  | [], [] => isTrue rfl
  | head :: tail, head' :: tail' =>
    have := Expr.decEq head head'
    have := Expr.decEqList tail tail'
    decidable_of_iff (head = head' ∧ tail = tail') (by simp)
  | [], _ :: _ => isFalse nofun
  | _ :: _, [] => isFalse nofun

end

instance : DecidableEq Expr := Expr.decEq

/-- What a function body is made of. -/
inductive Stmt where
  | assign (pos : Pos) (idents : List String) (value : Expr)
  | decl (pos : Pos) (decls : List Decl) (value : Option Expr)
  | ret (pos : Pos) (value : Expr)
  | bare (pos : Pos)
  deriving DecidableEq, Repr, Inhabited

/-- A whole program. -/
structure Function where
  pos : Pos
  name : String
  params : List Decl
  rets : List TypeRef
  body : List Stmt
  deriving DecidableEq, Repr, Inhabited

/-- Where an expression begins. -/
def Expr.pos : Expr → Pos
  | .intLit pos _ => pos
  | .var pos _ => pos
  | .tuple pos _ => pos
  | .bare pos => pos

/-- The parts that are matched with names one by one. -/
def Expr.components : Expr → List Expr
  | .tuple _ elements => elements
  | single => [single]

/-- Where a statement begins. -/
def Stmt.pos : Stmt → Pos
  | .assign pos _ _ => pos
  | .decl pos _ _ => pos
  | .ret pos _ => pos
  | .bare pos => pos

end Sprig
