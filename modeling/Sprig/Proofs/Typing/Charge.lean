import Sprig.Proofs.Typing.Inference

/-!
# What errors are charged to

Every error of a check is charged to a node of the tree: to the annotation
that names no kind, to the variable that no declaration binds, to the
component that has no single kind, or else to the statement.  This holds of
trees of any shape.  `Expr.Charges` and `Stmt.Charges` say which errors a node
can be charged with, and where.

A check stops at its first error.  If this is not an annotation in front of
the body, there is a statement before which the check goes well and in which
it fails (`error_of_function`).
-/

namespace Sprig

/-- The errors of a component, each charged to the component itself. -/
inductive Expr.Charges : Expr → TypeError → Prop where
  | undeclared (pos : Pos) (name : String) :
      Charges (.var pos name) ⟨.undeclared name, pos⟩
  | nested (pos : Pos) (elements : List Expr) :
      Charges (.tuple pos elements) ⟨.nestedTuple, pos⟩
  | bare (pos : Pos) :
      Charges (.bare pos) ⟨.bareExpr, pos⟩

namespace Stmt

/-- The value of a statement, if there is one. -/
def value? : Stmt → Option Expr
  | .assign _ _ value => some value
  | .decl _ _ value => value
  | .ret _ value => some value
  | .bare _ => none

/-- The names that a statement assigns. -/
def targets : Stmt → List String
  | .assign _ names _ => names
  | _ => []

/-- The errors of a statement, with what each is charged to. -/
inductive Charges (statement : Stmt) : TypeError → Prop where
  | arity (place : Pairing) (expected found : Nat) :
      Charges statement ⟨.arity place expected found, statement.pos⟩
  | mismatch (expected found : Kind) :
      Charges statement ⟨.mismatch expected found, statement.pos⟩
  | target
      {name : String}
      (assigned : name ∈ statement.targets) :
      Charges statement ⟨.undeclared name, statement.pos⟩
  | component
      {value component : Expr} {error : TypeError}
      (given : value ∈ statement.value?)
      (inside : component ∈ value.components)
      (charges : component.Charges error) :
      Charges statement error
  | typeName
      {type : TypeRef}
      (annotated : type ∈ statement.annotations)
      (unknown : Kind.ofName? type.name = none) :
      Charges statement ⟨.unknownType type.name, type.pos⟩
  | bare : Charges statement ⟨.bareStmt, statement.pos⟩
  | noSuchSlot : Charges statement ⟨.noSuchSlot, .nowhere⟩

end Stmt

namespace Check

variable {α : Type}
variable {kind : TypeError → Prop}

/-! ## Steps -/

theorem failsOnly_onArena
    {action : ArenaM α}
    (fails : FailsOnly kind action) :
    FailsOnly kind (onArena action) := by
  intro state error after stops
  rw [onArena] at stops
  split at stops
  next =>
    cases stops
  next found arena stopped =>
    cases stops
    exact fails _ _ _ stopped

theorem failsOnly_new (fresh : Kind) :
    FailsOnly kind (onArena (Arena.new fresh)) :=
  failsOnly_onArena (.never fun _ _ _ => nofun)

theorem failsOnly_fail
    {fault : TypeFault}
    {pos : Pos}
    (isKind : kind ⟨fault, pos⟩) :
    FailsOnly kind (fail fault pos : Check α) :=
  .throw isKind

theorem failsOnly_get : FailsOnly kind (get : Check CheckState) :=
  .never fun _ _ _ => nofun

theorem failsOnly_declare (name : String) (fresh : Kind) (pos : Pos) :
    FailsOnly kind (declare name fresh pos) :=
  (failsOnly_new fresh).bind fun _ =>
    .bind (.never fun _ _ _ => nofun) fun _ => .pure _

theorem failsOnly_lookup
    {name : String}
    {pos : Pos}
    (isKind : kind ⟨.undeclared name, pos⟩) :
    FailsOnly kind (lookup name pos) := by
  refine failsOnly_get.bind fun state => ?_
  split
  · exact .pure _
  · exact failsOnly_fail isKind

theorem failsOnly_convert
    {type : TypeRef}
    (isKind : Kind.ofName? type.name = none →
      kind ⟨.unknownType type.name, type.pos⟩) :
    FailsOnly kind (convert type) := by
  rw [convert]
  split
  next =>
    exact .pure _
  next unknown =>
    exact failsOnly_fail (isKind unknown)

theorem failsOnly_declaredKind
    {decl : Decl}
    (isKind : ∀ type ∈ decl.type, Kind.ofName? type.name = none →
      kind ⟨.unknownType type.name, type.pos⟩) :
    FailsOnly kind (declaredKind decl) := by
  rw [declaredKind]
  split
  next type annotated =>
    exact failsOnly_convert (isKind type annotated)
  next =>
    exact .pure _

theorem failsOnly_checkArity
    {place : Pairing}
    {expected found : Nat}
    {pos : Pos}
    (isKind : kind ⟨.arity place expected found, pos⟩) :
    FailsOnly kind (checkArity place expected found pos) :=
  .ite (.pure _) (failsOnly_fail isKind)

theorem failsOnly_find
    {slot : Nat}
    (isKind : kind ⟨.noSuchSlot, .nowhere⟩) :
    FailsOnly kind (Arena.find slot) := by
  intro arena error after fails
  rw [Arena.find] at fails
  split at fails
  · cases fails
    exact isKind
  · cases fails

theorem failsOnly_stored
    {slot : Nat}
    (isKind : kind ⟨.noSuchSlot, .nowhere⟩) :
    FailsOnly kind (Arena.stored slot) := by
  intro arena error after fails
  rw [Arena.stored] at fails
  split at fails
  · cases fails
    exact isKind
  · cases fails

/-- Kinds that differ are charged to the site. -/
theorem failsOnly_agree
    {first second : Nat}
    {site : Pos}
    (clash : ∀ expected found, kind ⟨.mismatch expected found, site⟩)
    (outside : kind ⟨.noSuchSlot, .nowhere⟩) :
    FailsOnly kind (agree first second site) := by
  have linked (root above : Nat) : FailsOnly kind (Arena.link root above) :=
    .never fun _ _ _ => nofun
  refine failsOnly_onArena ?_
  refine (failsOnly_find outside).bind fun firstRoot => ?_
  refine (failsOnly_find outside).bind fun secondRoot => ?_
  refine .ite (.pure _) ?_
  refine (failsOnly_stored outside).bind fun firstKind => ?_
  refine (failsOnly_stored outside).bind fun secondKind => ?_
  refine .ite (.ite (.ite (.pure _) ?_) (linked _ _))
    (.ite (linked _ _) (.pure _))
  exact .throw (clash firstKind secondKind)

/-! ## Statements -/

theorem failsOnly_slotOf (component : Expr) :
    FailsOnly component.Charges (slotOf component) := by
  cases component with
  | intLit pos text =>
      exact failsOnly_new .int
  | var pos name =>
      exact failsOnly_lookup (.undeclared pos name)
  | tuple pos elements =>
      exact failsOnly_fail (.nested pos elements)
  | bare pos =>
      exact failsOnly_fail (.bare pos)

theorem failsOnly_slotsOf
    {statement : Stmt}
    {value : Expr}
    (given : value ∈ statement.value?) :
    FailsOnly statement.Charges (slotsOf value) :=
  .mapM fun component inside =>
    (failsOnly_slotOf component).mono fun _ charges =>
      .component given inside charges

theorem failsOnly_bindName
    {site : Pos}
    (clash : ∀ expected found, kind ⟨.mismatch expected found, site⟩)
    (outside : kind ⟨.noSuchSlot, .nowhere⟩)
    (name : String)
    (fresh : Kind)
    (pos : Pos)
    (values : List Nat) :
    FailsOnly kind (bindName name fresh pos site values) := by
  refine (failsOnly_declare name fresh pos).bind fun slot => ?_
  cases values with
  | nil =>
      exact .pure _
  | cons value others =>
      exact (failsOnly_agree clash outside).bind fun _ => .pure _

/-- Once the values are there only annotations and kinds can be at fault. -/
theorem failsOnly_bindDecls
    {site : Pos}
    {decls : List Decl}
    (unknown : ∀ decl ∈ decls, ∀ type ∈ decl.type,
      Kind.ofName? type.name = none →
        kind ⟨.unknownType type.name, type.pos⟩)
    (clash : ∀ expected found, kind ⟨.mismatch expected found, site⟩)
    (outside : kind ⟨.noSuchSlot, .nowhere⟩)
    (values : List Nat) :
    FailsOnly kind
      (decls.foldlM (fun values decl => bindDecl decl site values) values) := by
  refine .foldlM (fun decl member values => ?_) values
  refine (failsOnly_declaredKind (unknown decl member)).bind fun fresh => ?_
  exact .foldlM
    (fun name _ values => failsOnly_bindName clash outside name _ _ values)
    values

theorem failsOnly_declStmt
    (pos : Pos)
    (decls : List Decl)
    (value : Option Expr) :
    FailsOnly (Stmt.decl pos decls value).Charges
      (declStmt pos decls value) := by
  have initialized : FailsOnly (Stmt.decl pos decls value).Charges
      (initializers pos decls value) := by
    cases value with
    | none =>
        exact .pure _
    | some value =>
        refine (failsOnly_slotsOf rfl).bind fun values => ?_
        exact (failsOnly_checkArity (.arity _ _ _)).bind fun _ => .pure _
  refine initialized.bind fun values => .discard ?_
  refine failsOnly_bindDecls ?_ .mismatch .noSuchSlot values
  intro decl member type annotated unknown
  exact .typeName (List.mem_filterMap.2 ⟨decl, member, annotated⟩) unknown

theorem failsOnly_assignStmt
    (pos : Pos)
    (names : List String)
    (value : Expr) :
    FailsOnly (Stmt.assign pos names value).Charges
      (assignStmt pos names value) := by
  refine .bind (.mapM fun name member => ?_) fun targets => ?_
  · exact failsOnly_lookup (.target member)
  refine (failsOnly_slotsOf rfl).bind fun values => ?_
  refine (failsOnly_checkArity (.arity _ _ _)).bind fun _ => ?_
  exact .forM fun _ _ => failsOnly_agree .mismatch .noSuchSlot

theorem failsOnly_returnStmt (pos : Pos) (value : Expr) :
    FailsOnly (Stmt.ret pos value).Charges (returnStmt pos value) := by
  refine (failsOnly_slotsOf rfl).bind fun values => ?_
  refine failsOnly_get.bind fun state => ?_
  refine (failsOnly_checkArity (.arity _ _ _)).bind fun _ => ?_
  refine .forM fun pair _ => ?_
  exact (failsOnly_new pair.1).bind fun _ =>
    failsOnly_agree .mismatch .noSuchSlot

/-- A statement fails only with what it is charged with. -/
theorem failsOnly_stmt (statement : Stmt) :
    FailsOnly statement.Charges (stmt statement) := by
  cases statement with
  | decl pos decls value =>
      exact failsOnly_declStmt pos decls value
  | assign pos names value =>
      exact failsOnly_assignStmt pos names value
  | ret pos value =>
      exact failsOnly_returnStmt pos value
  | bare pos =>
      exact failsOnly_fail .bare

/-! ## Functions -/

end Check

namespace Function

/-- The annotations in front of the body. -/
def headAnnotations (code : Function) : List TypeRef :=
  code.params.filterMap Decl.type ++ code.rets

/-- The errors in front of the body. -/
inductive HeadCharges (code : Function) : TypeError → Prop where
  | typeName
      {type : TypeRef}
      (annotated : type ∈ code.headAnnotations)
      (unknown : Kind.ofName? type.name = none) :
      HeadCharges code ⟨.unknownType type.name, type.pos⟩

end Function

namespace Check

theorem failsOnly_param
    {kind : TypeError → Prop}
    {decl : Decl}
    (isKind : ∀ type ∈ decl.type, Kind.ofName? type.name = none →
      kind ⟨.unknownType type.name, type.pos⟩) :
    FailsOnly kind (param decl) :=
  (failsOnly_declaredKind isKind).bind fun fresh =>
    .forM fun name _ => (failsOnly_declare name fresh decl.pos).discard

/-- In front of the body only annotations are charged. -/
theorem failsOnly_head (code : Function) :
    FailsOnly code.HeadCharges (function (code.upTo 0)) := by
  refine .bind (.forM fun decl member => ?_) fun _ => ?_
  · refine failsOnly_param fun type annotated unknown => ?_
    refine .typeName (List.mem_append_left _ ?_) unknown
    exact List.mem_filterMap.2 ⟨decl, member, annotated⟩
  refine .bind (.mapM fun type member => ?_) fun kinds => ?_
  · exact failsOnly_convert fun unknown =>
      .typeName (List.mem_append_right _ member) unknown
  exact .bind (.never fun _ _ _ => nofun) fun _ => .pure _

/-- A check that goes well up to a statement of the body and fails in it. -/
def StopsAt
    (code : Function)
    (index : Nat)
    (statement : Stmt)
    (error : TypeError) : Prop :=
  code.body[index]? = some statement ∧
    ∃ before after,
      function (code.upTo index) .initial = .ok () before ∧
        stmt statement before = .error error after

theorem StopsAt.charges
    {code : Function}
    {index : Nat}
    {statement : Stmt}
    {error : TypeError}
    (stops : StopsAt code index statement error) :
    statement.Charges error := by
  rcases stops with ⟨-, before, after, -, fails⟩
  exact failsOnly_stmt statement before error after fails

/-- A check fails in front of the body, or at one statement of it. -/
theorem error_of_function
    {code : Function}
    {error : TypeError}
    {after : CheckState}
    (fails : function code .initial = .error error after) :
    code.HeadCharges error ∨
      ∃ index statement, StopsAt code index statement error := by
  rw [function_eq_upTo_bind code 0] at fails
  rcases fails_of_bind_eq_error fails with
    headFails | ⟨_, headEnd, head, bodyFails⟩
  · exact .inl (failsOnly_head code _ _ _ headFails)
  · rcases fails_of_forM_eq_error bodyFails with
      ⟨index, statement, before, listed, passed, stops⟩
    refine .inr ⟨index, statement, listed, before, after, ?_, stops⟩
    rw [function_eq_upTo_bind (code.upTo index) 0]
    exact (bind_eq_of_ok head _).trans passed

end Check

end Sprig
