import Sprig.Syntax.Basic
import Sprig.Text.Word

/-!
# Trees that a source can spell

A tree is wider than the language.  `Function.WellFormed` says which trees
are spelled by some source: names and numbers are made of the right
characters, no list of names is empty, tuples have at least two elements and
never nest, and a declaration statement has either a type for every group or
no type at all and an initializer.  The word `return` begins no assignment
and no declaration.

Positions play no part in this.  `unplaced` moves every node of a tree to
`Pos.nowhere`, so two trees differ in their positions alone exactly when
their unplaced trees are equal.
-/

namespace Sprig

open Sprig.Text

/-! ## Names, numbers and values -/

/-- A letter followed by letters and numeric characters. -/
def IsName (name : String) : Prop :=
  name.toList.head?.any isLetter ∧ name.toList.all isAlphanumeric

instance : DecidablePred IsName := fun _ =>
  inferInstanceAs (Decidable (_ ∧ _))

/-- At least one numeric character and no others. -/
def IsNumber (text : String) : Prop :=
  text.toList ≠ [] ∧ text.toList.all isNumeric

instance : DecidablePred IsNumber := fun _ =>
  inferInstanceAs (Decidable (_ ∧ _))

/-- At least one name. -/
def IsNameList (names : List String) : Prop :=
  names ≠ [] ∧ ∀ name ∈ names, IsName name

instance : DecidablePred IsNameList := fun _ =>
  inferInstanceAs (Decidable (_ ∧ _))

/-- A number, or a name that is not read as the beginning of one. -/
def Expr.IsAtom : Expr → Prop
  | .intLit _ text => IsNumber text
  | .var _ name => IsName name ∧ name.toList.head?.any isNumeric = false
  | .tuple .. => False
  | .bare _ => False

instance : DecidablePred Expr.IsAtom
  | .intLit _ text => inferInstanceAs (Decidable (IsNumber text))
  | .var _ _ => inferInstanceAs (Decidable (_ ∧ _))
  | .tuple .. => isFalse id
  | .bare _ => isFalse id

/-- An atom, or at least two of them. -/
def Expr.IsValue : Expr → Prop
  | .tuple _ elements =>
      2 ≤ elements.length ∧ ∀ element ∈ elements, element.IsAtom
  | single => single.IsAtom

instance : DecidablePred Expr.IsValue
  | .tuple .. => inferInstanceAs (Decidable (_ ∧ _))
  | .intLit pos text =>
      inferInstanceAs (Decidable (Expr.intLit pos text).IsAtom)
  | .var pos name => inferInstanceAs (Decidable (Expr.var pos name).IsAtom)
  | .bare _ => isFalse id

/-! ## Declarations, statements and functions -/

/-- Names that share an annotation. -/
def Decl.IsGroup (decl : Decl) : Prop :=
  IsNameList decl.idents ∧ ∃ type ∈ decl.type, IsName type.name

instance : DecidablePred Decl.IsGroup := fun _ =>
  inferInstanceAs (Decidable (_ ∧ _))

/-- A single name without an annotation. -/
def Decl.IsInferred (decl : Decl) : Prop :=
  decl.idents.length = 1 ∧ IsNameList decl.idents ∧ decl.type = none

instance : DecidablePred Decl.IsInferred := fun _ =>
  inferInstanceAs (Decidable (_ ∧ _ ∧ _))

/--
Groups with an optional initializer, or single names without annotations
whose initializer is present.
-/
def DeclaresOneWay (decls : List Decl) (value : Option Expr) : Prop :=
  ((∀ decl ∈ decls, decl.IsGroup) ∧ ∀ initial ∈ value, initial.IsValue) ∨
    ((∀ decl ∈ decls, decl.IsInferred) ∧ ∃ initial ∈ value, initial.IsValue)

instance (decls : List Decl) (value : Option Expr) :
    Decidable (DeclaresOneWay decls value) :=
  inferInstanceAs (Decidable ((_ ∧ _) ∨ (_ ∧ _)))

/-- The names that a list of declarations binds, in order. -/
def declaredNames (decls : List Decl) : List String :=
  decls.flatMap Decl.idents

/-- Declarations that each bind names bind names together. -/
theorem isNameList_declaredNames
    {decls : List Decl}
    (nonempty : decls ≠ [])
    (areNames : ∀ decl ∈ decls, IsNameList decl.idents) :
    IsNameList (declaredNames decls) := by
  constructor
  · intro empty
    rcases List.exists_cons_of_ne_nil nonempty with ⟨first, others, rfl⟩
    exact (areNames first (.head _)).1
      (List.flatMap_eq_nil_iff.1 empty first (.head _))
  · intro name member
    rcases List.mem_flatMap.1 member with ⟨decl, declMember, declared⟩
    exact (areNames decl declMember).2 name declared

namespace DeclaresOneWay

variable {decls : List Decl}
variable {value : Option Expr}

/-- An initializer, if there is one, is a value. -/
theorem isValue
    (oneWay : DeclaresOneWay decls value) :
    ∀ initial ∈ value, initial.IsValue := by
  rcases oneWay with ⟨-, isValue⟩ | ⟨-, initial, given, isValue⟩
  · exact isValue
  · rintro other sameValue
    cases given.symm.trans sameValue
    exact isValue

/-- Every name has an annotation, or there is an initializer. -/
theorem typed
    (oneWay : DeclaresOneWay decls value) :
    (∀ decl ∈ decls, decl.type.isSome = true) ∨ value.isSome = true := by
  rcases oneWay with ⟨groups, -⟩ | ⟨-, initial, given, -⟩
  · apply Or.inl
    intro decl member
    rcases groups decl member with ⟨-, type, annotated, -⟩
    exact Option.isSome_of_mem annotated
  · exact .inr (Option.isSome_of_mem given)

end DeclaresOneWay

/-- A statement that a source can spell. -/
def Stmt.WellFormed : Stmt → Prop
  | .assign _ names value =>
      IsNameList names ∧ names.head? ≠ some "return" ∧ value.IsValue
  | .decl _ decls value =>
      decls ≠ [] ∧ (declaredNames decls).head? ≠ some "return" ∧
        DeclaresOneWay decls value
  | .ret _ value => value.IsValue
  | .bare _ => False

instance : DecidablePred Stmt.WellFormed
  | .assign .. => inferInstanceAs (Decidable (_ ∧ _ ∧ _))
  | .decl .. => inferInstanceAs (Decidable (_ ∧ _ ∧ _))
  | .ret _ value => inferInstanceAs (Decidable value.IsValue)
  | .bare _ => isFalse id

/-- A function that a source can spell. -/
structure Function.WellFormed (function : Function) : Prop where
  name : IsName function.name
  params : ∀ decl ∈ function.params, decl.IsGroup
  rets : ∀ type ∈ function.rets, IsName type.name
  body : ∀ stmt ∈ function.body, stmt.WellFormed

instance : DecidablePred Function.WellFormed := fun function =>
  decidable_of_iff
    (IsName function.name ∧ (∀ decl ∈ function.params, decl.IsGroup) ∧
      (∀ type ∈ function.rets, IsName type.name) ∧
        ∀ stmt ∈ function.body, stmt.WellFormed)
    ⟨fun ⟨name, params, rets, body⟩ => ⟨name, params, rets, body⟩,
      fun ⟨name, params, rets, body⟩ => ⟨name, params, rets, body⟩⟩

/-! ## Trees without positions -/

/-- The annotation without its position. -/
def TypeRef.unplaced (type : TypeRef) : TypeRef :=
  { type with pos := .nowhere }

/-- The declaration without positions. -/
def Decl.unplaced (decl : Decl) : Decl :=
  ⟨.nowhere, decl.idents, decl.type.map TypeRef.unplaced⟩

mutual

/-- The expression without positions. -/
def Expr.unplaced : Expr → Expr
  | .intLit _ text => .intLit .nowhere text
  | .var _ name => .var .nowhere name
  | .tuple _ elements => .tuple .nowhere (Expr.listUnplaced elements)
  | .bare _ => .bare .nowhere

/-- The expressions without positions. -/
def Expr.listUnplaced : List Expr → List Expr
  | [] => []
  | head :: tail => head.unplaced :: Expr.listUnplaced tail

end

@[simp]
theorem Expr.listUnplaced_eq_map (elements : List Expr) :
    Expr.listUnplaced elements = elements.map Expr.unplaced := by
  induction elements with
  | nil =>
      rfl
  | cons head tail ih =>
      rw [Expr.listUnplaced, ih, List.map_cons]

/-- The statement without positions. -/
def Stmt.unplaced : Stmt → Stmt
  | .assign _ names value => .assign .nowhere names value.unplaced
  | .decl _ decls value =>
      .decl .nowhere (decls.map Decl.unplaced) (value.map Expr.unplaced)
  | .ret _ value => .ret .nowhere value.unplaced
  | .bare _ => .bare .nowhere

/-- The function without positions. -/
def Function.unplaced (function : Function) : Function :=
  ⟨.nowhere, function.name, function.params.map Decl.unplaced,
    function.rets.map TypeRef.unplaced, function.body.map Stmt.unplaced⟩

end Sprig
