import Mathlib.Data.List.Basic
import Sprig.Proofs.Json.Unambiguous
import Sprig.Syntax.Json

/-!
# Printed trees

Trees of any shape, those that no source yields included, are the same if they
are printed alike.  The value of a tree tells the tree: the member `_type`
tells the form of a node, a part that is missing is null and so no node, and
every other part is a member of its own.  The printed form tells the value.

The printed form is pure ASCII.  An `Encoding` is a way to turn texts into
bytes that keeps the bytes of ASCII; UTF-8 is one.  All of them give the same
bytes for a printed tree.
-/

namespace Sprig

/-! ## The value of a tree -/

theorem Pos.toJson_injective : Function.Injective Pos.toJson := by
  rintro ⟨line, col⟩ ⟨line', col'⟩ same
  simp only [Pos.toJson, Json.arr.injEq, List.cons.injEq, Json.int.injEq,
    and_true] at same
  rcases same with ⟨rfl, rfl⟩
  rfl

theorem TypeRef.toJson_injective : Function.Injective TypeRef.toJson := by
  rintro ⟨pos, name⟩ ⟨pos', name'⟩ same
  simp only [TypeRef.toJson, Json.obj.injEq, List.cons.injEq, Prod.mk.injEq,
    Json.str.injEq, true_and, and_true] at same
  rcases same with ⟨places, rfl⟩
  rw [Pos.toJson_injective places]

theorem identsToJson_injective : Function.Injective identsToJson := by
  intro idents idents' same
  have strings : Function.Injective Json.str := fun _ _ => Json.str.inj
  exact List.map_injective_iff.2 strings (Json.arr.inj same)

/-- A part that may be missing is told apart from a missing one. -/
theorem getD_null_injective
    {α : Type}
    {toJson : α → Json}
    (injective : Function.Injective toJson)
    (present : ∀ value, toJson value ≠ .null) :
    Function.Injective fun value : Option α =>
      (value.map toJson).getD .null := by
  intro first second same
  cases first with
  | none =>
      cases second with
      | none => rfl
      | some value => exact absurd same.symm (present value)
  | some value =>
      cases second with
      | none => exact absurd same (present value)
      | some other => rw [injective same]

theorem Decl.toJson_injective : Function.Injective Decl.toJson := by
  rintro ⟨pos, idents, type⟩ ⟨pos', idents', type'⟩ same
  simp only [Decl.toJson, Json.obj.injEq, List.cons.injEq, Prod.mk.injEq,
    true_and, and_true] at same
  rcases same with ⟨places, names, types⟩
  have absent (type : TypeRef) : type.toJson ≠ .null := nofun
  rw [Pos.toJson_injective places, identsToJson_injective names,
    getD_null_injective TypeRef.toJson_injective absent types]

/-- A property of the elements of a tuple is one of the tuple. -/
theorem Expr.elementInduction
    {motive : Expr → Prop}
    (intLit : ∀ pos text, motive (.intLit pos text))
    (var : ∀ pos name, motive (.var pos name))
    (tuple : ∀ pos elements,
      (∀ element ∈ elements, motive element) → motive (.tuple pos elements))
    (bare : ∀ pos, motive (.bare pos)) :
    ∀ value, motive value
  | .intLit pos text => intLit pos text
  | .var pos name => var pos name
  | .tuple pos elements =>
    tuple pos elements fun element _ =>
      elementInduction intLit var tuple bare element
  | .bare pos => bare pos

/-- Lists are the same if their items are told one by one. -/
theorem map_inj_of_forall
    {α β : Type}
    {view : α → β}
    {items others : List α}
    (each : ∀ item ∈ items, ∀ other, view item = view other → item = other)
    (same : items.map view = others.map view) :
    items = others := by
  induction items generalizing others with
  | nil =>
      exact (List.map_eq_nil_iff.1 same.symm).symm
  | cons item items ih =>
      cases others with
      | nil => cases same
      | cons other others =>
          rcases List.forall_mem_cons.1 each with ⟨first, later⟩
          rcases List.cons.inj same with ⟨heads, tails⟩
          rw [first other heads, ih later tails]

theorem Expr.toJson_injective : Function.Injective Expr.toJson := by
  intro first
  induction first using Expr.elementInduction with
  | intLit pos text =>
      intro second same
      cases second with
      | intLit pos' text' =>
          simp only [Expr.toJson, Json.obj.injEq, List.cons.injEq,
            Prod.mk.injEq, Json.str.injEq, true_and, and_true] at same
          rw [Pos.toJson_injective same.1, same.2]
      | _ => simp [Expr.toJson] at same
  | var pos name =>
      intro second same
      cases second with
      | var pos' name' =>
          simp only [Expr.toJson, Json.obj.injEq, List.cons.injEq,
            Prod.mk.injEq, Json.str.injEq, true_and, and_true] at same
          rw [Pos.toJson_injective same.1, same.2]
      | _ => simp [Expr.toJson] at same
  | tuple pos elements each =>
      intro second same
      cases second with
      | tuple pos' elements' =>
          simp only [Expr.toJson, Expr.listToJson_eq_map, Json.obj.injEq,
            List.cons.injEq, Prod.mk.injEq, Json.arr.injEq, true_and,
            and_true] at same
          rw [Pos.toJson_injective same.1,
            map_inj_of_forall (fun item listed _ => @each item listed _)
              same.2]
      | _ => simp [Expr.toJson] at same
  | bare pos =>
      intro second same
      cases second with
      | bare pos' =>
          simp only [Expr.toJson, Json.obj.injEq, List.cons.injEq,
            Prod.mk.injEq, true_and, and_true] at same
          rw [Pos.toJson_injective same]
      | _ => simp [Expr.toJson] at same

theorem Stmt.toJson_injective : Function.Injective Stmt.toJson := by
  have absent (value : Expr) : value.toJson ≠ .null := by
    cases value <;> exact nofun
  intro first second same
  cases first with
  | assign pos idents value =>
      cases second with
      | assign pos' idents' value' =>
          simp only [Stmt.toJson, Json.obj.injEq, List.cons.injEq,
            Prod.mk.injEq, true_and, and_true] at same
          rcases same with ⟨places, names, values⟩
          rw [Pos.toJson_injective places, identsToJson_injective names,
            Expr.toJson_injective values]
      | _ => simp [Stmt.toJson] at same
  | decl pos decls value =>
      cases second with
      | decl pos' decls' value' =>
          simp only [Stmt.toJson, Json.obj.injEq, List.cons.injEq,
            Prod.mk.injEq, Json.arr.injEq, true_and, and_true] at same
          rcases same with ⟨places, groups, values⟩
          rw [Pos.toJson_injective places,
            List.map_injective_iff.2 Decl.toJson_injective groups,
            getD_null_injective Expr.toJson_injective absent values]
      | _ => simp [Stmt.toJson] at same
  | ret pos value =>
      cases second with
      | ret pos' value' =>
          simp only [Stmt.toJson, Json.obj.injEq, List.cons.injEq,
            Prod.mk.injEq, true_and, and_true] at same
          rcases same with ⟨places, values⟩
          rw [Pos.toJson_injective places, Expr.toJson_injective values]
      | _ => simp [Stmt.toJson] at same
  | bare pos =>
      cases second with
      | bare pos' =>
          simp only [Stmt.toJson, Json.obj.injEq, List.cons.injEq,
            Prod.mk.injEq, true_and, and_true] at same
          rw [Pos.toJson_injective same]
      | _ => simp [Stmt.toJson] at same

/-- The value of a tree tells the tree. -/
theorem Function.toJson_injective : Function.Injective Function.toJson := by
  rintro ⟨pos, name, params, rets, body⟩ ⟨pos', name', params', rets', body'⟩
    same
  simp only [Function.toJson, Json.obj.injEq, List.cons.injEq, Prod.mk.injEq,
    Json.str.injEq, Json.arr.injEq, true_and, and_true] at same
  rcases same with ⟨places, names, groups, types, statements⟩
  rw [Pos.toJson_injective places, names,
    List.map_injective_iff.2 Decl.toJson_injective groups,
    List.map_injective_iff.2 TypeRef.toJson_injective types,
    List.map_injective_iff.2 Stmt.toJson_injective statements]

/-! ## Bytes -/

/-- A way to turn texts into bytes that keeps the bytes of ASCII. -/
structure Encoding where
  encode : List Char → List UInt8
  encode_ascii : ∀ text, AllAscii text →
    encode text = text.map fun char => UInt8.ofNat char.toNat

/-- The bytes of a text in UTF-8. -/
theorem utf8Encode_of_allAscii
    {text : List Char}
    (ascii : AllAscii text) :
    text.flatMap String.utf8EncodeChar =
      text.map fun char => UInt8.ofNat char.toNat := by
  induction text with
  | nil =>
      rfl
  | cons char text ih =>
      rcases List.forall_mem_cons.1 ascii with ⟨small, later⟩
      have size : char.utf8Size = 1 := by
        rw [Char.utf8Size_eq_one_iff, UInt32.le_iff_toNat_le]
        exact Nat.le_of_lt_succ small
      rw [List.flatMap_cons, String.utf8EncodeChar_eq_singleton size, ih later]
      rfl

/-- UTF-8 keeps the bytes of ASCII. -/
def Encoding.utf8 : Encoding where
  encode text := (String.ofList text).toUTF8.data.toList
  encode_ascii text ascii := by
    rw [← utf8Encode_of_allAscii ascii]
    simp [List.utf8Encode]

/--
Trees are the same if and only if they are printed alike, and the printed form
is pure ASCII, with the same bytes in every encoding that keeps those of
ASCII.
-/
theorem printed_tree_is_faithful (first second : Function) :
    (first.toJson.render = second.toJson.render ↔ first = second) ∧
      AllAscii first.toJson.render.toList ∧
      ∀ encoding : Encoding,
        encoding.encode first.toJson.render.toList =
          first.toJson.render.toUTF8.data.toList := by
  have ascii := Json.allAscii_render first.toJson
  refine ⟨⟨fun same => ?_, fun same => ?_⟩, ascii, fun encoding => ?_⟩
  · exact Function.toJson_injective (Json.render_injective same)
  · rw [same]
  · calc
      encoding.encode first.toJson.render.toList =
          Encoding.utf8.encode first.toJson.render.toList := by
        rw [encoding.encode_ascii _ ascii, Encoding.utf8.encode_ascii _ ascii]
      _ = first.toJson.render.toUTF8.data.toList := by
        simp only [Encoding.utf8, String.ofList_toList]

end Sprig
