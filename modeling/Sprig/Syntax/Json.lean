import Sprig.Json.Basic
import Sprig.Syntax.Basic

/-!
# Syntax trees as JSON

Every node is an object whose member `_type` names its form.  Functions,
declarations and types list it first; statements and expressions list their
position before it.
-/

namespace Sprig

/-- A pair of line and column. -/
def Pos.toJson (pos : Pos) : Json :=
  .arr [.int pos.line, .int pos.col]

/-- A type by its name. -/
def TypeRef.toJson (type : TypeRef) : Json :=
  .obj
    [ ("_type", .str "Type"),
      ("pos", type.pos.toJson),
      ("name", .str type.name) ]

/-- A list of names. -/
def identsToJson (idents : List String) : Json :=
  .arr (idents.map .str)

/-- A declaration; a missing annotation is null. -/
def Decl.toJson (decl : Decl) : Json :=
  .obj
    [ ("_type", .str "Decl"),
      ("pos", decl.pos.toJson),
      ("idents", identsToJson decl.idents),
      ("typ", (decl.type.map TypeRef.toJson).getD .null) ]

mutual

/-- An expression with its parts. -/
def Expr.toJson : Expr → Json
  | .intLit pos text =>
    .obj
      [ ("pos", pos.toJson),
        ("_type", .str "IntLit"),
        ("text", .str text) ]
  | .var pos name =>
    .obj
      [ ("pos", pos.toJson),
        ("_type", .str "Var"),
        ("name", .str name) ]
  | .tuple pos elements =>
    .obj
      [ ("pos", pos.toJson),
        ("_type", .str "Tuple"),
        ("elements", .arr (Expr.listToJson elements)) ]
  | .bare pos =>
    .obj
      [ ("pos", pos.toJson),
        ("_type", .str "Expr") ]

/-- Expressions one by one. -/
def Expr.listToJson : List Expr → List Json
  | [] => []
  | head :: tail => head.toJson :: Expr.listToJson tail

end

/-- A statement; a missing initializer is null. -/
def Stmt.toJson : Stmt → Json
  | .assign pos idents value =>
    .obj
      [ ("pos", pos.toJson),
        ("_type", .str "Assign"),
        ("idents", identsToJson idents),
        ("value", value.toJson) ]
  | .decl pos decls value =>
    .obj
      [ ("pos", pos.toJson),
        ("_type", .str "DeclStmt"),
        ("decls", .arr (decls.map Decl.toJson)),
        ("value", (value.map Expr.toJson).getD .null) ]
  | .ret pos value =>
    .obj
      [ ("pos", pos.toJson),
        ("_type", .str "Return"),
        ("value", value.toJson) ]
  | .bare pos =>
    .obj
      [ ("pos", pos.toJson),
        ("_type", .str "Stmt") ]

/-- A whole program. -/
def Function.toJson (function : Function) : Json :=
  .obj
    [ ("_type", .str "Function"),
      ("pos", function.pos.toJson),
      ("name", .str function.name),
      ("params", .arr (function.params.map Decl.toJson)),
      ("rets", .arr (function.rets.map TypeRef.toJson)),
      ("body", .arr (function.body.map Stmt.toJson)) ]

/-- The items of an array of expressions are the expressions one by one. -/
theorem Expr.listToJson_eq_map (elements : List Expr) :
    Expr.listToJson elements = elements.map Expr.toJson := by
  induction elements with
  | nil => rfl
  | cons head tail ih => simp [Expr.listToJson, ih]

end Sprig
