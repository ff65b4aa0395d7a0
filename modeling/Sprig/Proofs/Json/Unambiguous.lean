import Sprig.Proofs.Json.Escaping
import Sprig.Proofs.Text.Runs

/-!
# The written form tells the value

Two values that are written alike are the same.  The first character of a
value tells its form.  A text and a container show where they end, and a
number ends where no digit follows: behind a value there is the end of the
text, a comma or a line feed, none of which is a digit.

So a container can be taken apart from the front.  Behind each item there is a
comma if another one follows and a line feed if not, and the item itself tells
where this is.  The induction is on the value, with one case for each of its
forms, and asks of each item what it shows of the whole.
-/

namespace Sprig.Json

open Sprig.Text

variable {α : Type}

/-! ## Numbers -/

/-- What may follow a value: nothing, the next item or the next line. -/
def EndsValue (rest : List Char) : Prop :=
  rest.head?.all (fun char => char == ',' || char == '\n') = true

theorem EndsValue.stops
    {rest : List Char}
    (ends : EndsValue rest) :
    rest.head?.any Char.isDigit = false := by
  cases rest with
  | nil =>
      rfl
  | cons char rest =>
      simp only [EndsValue, List.head?_cons, Option.all_some, Bool.or_eq_true,
        beq_iff_eq] at ends
      rcases ends with rfl | rfl <;> rfl

theorem digits_tell (value : Nat) :
    Tells (Nat.toDigits 10) EndsValue value := by
  intro other rest rest' ends ends' same
  have digits (number : Nat) :
      ∀ char ∈ Nat.toDigits 10 number, char.isDigit = true :=
    fun _ listed =>
      Nat.isDigit_of_mem_toDigits (by decide) (by decide) listed
  have whole := takeWhile_append_of_stops (digits value) ends.stops
  rw [same] at whole
  have whole' := takeWhile_append_of_stops (digits other) ends'.stops
  have numerals := whole.1.symm.trans whole'.1
  refine ⟨?_, whole.2.symm.trans whole'.2⟩
  calc
    value = Nat.ofDigitChars 10 (Nat.toDigits 10 value) 0 := by simp
    _ = Nat.ofDigitChars 10 (Nat.toDigits 10 other) 0 := by rw [numerals]
    _ = other := by simp

/-- A number that is not negative begins with a digit. -/
theorem toDigits_eq_cons (value : Nat) :
    ∃ first others,
      Nat.toDigits 10 value = first :: others ∧ first.isDigit = true := by
  rcases List.exists_cons_of_ne_nil Nat.toDigits_ne_nil with
    ⟨first, others, shape⟩
  refine ⟨first, others, shape, ?_⟩
  exact Nat.isDigit_of_mem_toDigits (by decide) (by decide)
    (shape ▸ List.mem_cons_self)

theorem writeInt_tells (value : Int) : Tells writeInt EndsValue value := by
  intro other rest rest' ends ends' same
  cases value with
  | ofNat value =>
      cases other with
      | ofNat other =>
          rcases digits_tell value other rest rest' ends ends' same with
            ⟨rfl, follow⟩
          exact ⟨rfl, follow⟩
      | negSucc other =>
          rcases toDigits_eq_cons value with ⟨first, others, shape, digit⟩
          rw [writeInt, shape] at same
          rw [(List.cons.inj same).1] at digit
          exact absurd digit (by decide)
  | negSucc value =>
      cases other with
      | ofNat other =>
          rcases toDigits_eq_cons other with ⟨first, others, shape, digit⟩
          rw [writeInt.eq_1, shape] at same
          rw [← (List.cons.inj same).1] at digit
          exact absurd digit (by decide)
      | negSucc other =>
          rcases
              digits_tell (value + 1) (other + 1) rest rest' ends ends'
                (List.cons.inj same).2 with
            ⟨number, follow⟩
          exact ⟨by rw [Nat.succ.inj number], follow⟩

/-! ## Containers -/

variable {spell : α → List Char}
variable {depth : Nat}
variable {closing : Char}

/-- What stands in a container behind its first item. -/
def blockTail
    (spell : α → List Char)
    (depth : Nat)
    (closing : Char)
    (items : List α) :
    List Char :=
  items.flatMap (fun item => ',' :: newline (depth + 1) ++ spell item) ++
    newline depth ++ [closing]

theorem blockTail_cons (item : α) (items : List α) (rest : List Char) :
    blockTail spell depth closing (item :: items) ++ rest =
      ',' :: (newline (depth + 1) ++
        (spell item ++ (blockTail spell depth closing items ++ rest))) := by
  simp [blockTail]

theorem blockTail_nil (rest : List Char) :
    blockTail spell depth closing [] ++ rest =
      '\n' :: (List.replicate (2 * depth) ' ' ++ closing :: rest) := by
  simp [blockTail, newline]

theorem block_cons (opening : Char) (item : α) (items : List α)
    (rest : List Char) :
    block opening closing depth ((item :: items).map spell) ++ rest =
      opening :: (newline (depth + 1) ++
        (spell item ++ (blockTail spell depth closing items ++ rest))) := by
  simp [block, blockTail, List.flatMap_map]

/-- An item is followed by a comma or by a line feed. -/
theorem endsValue_blockTail (items : List α) (rest : List Char) :
    EndsValue (blockTail spell depth closing items ++ rest) := by
  cases items with
  | nil =>
      rw [blockTail_nil]
      rfl
  | cons item items =>
      rw [blockTail_cons]
      rfl

/-- An item in front of the others tells itself and leaves them. -/
theorem item_tells
    {item other : α}
    {items others : List α}
    {rest rest' : List Char}
    (tells : Tells spell EndsValue item)
    (same :
      spell item ++ (blockTail spell depth closing items ++ rest) =
        spell other ++ (blockTail spell depth closing others ++ rest')) :
    item = other ∧
      blockTail spell depth closing items ++ rest =
        blockTail spell depth closing others ++ rest' :=
  tells other _ _ (endsValue_blockTail items rest)
    (endsValue_blockTail others rest') same

theorem blockTail_tells
    {items : List α}
    (each : ∀ item ∈ items, Tells spell EndsValue item) :
    Tells (blockTail spell depth closing) (fun _ => True) items := by
  intro others rest rest' _ _ same
  induction items generalizing others with
  | nil =>
      cases others with
      | nil =>
          exact ⟨rfl, List.append_cancel_left same⟩
      | cons other others =>
          rw [blockTail_nil, blockTail_cons] at same
          exact absurd (List.cons.inj same).1 (by decide)
  | cons item items ih =>
      cases others with
      | nil =>
          rw [blockTail_cons, blockTail_nil] at same
          exact absurd (List.cons.inj same).1 (by decide)
      | cons other others =>
          rcases List.forall_mem_cons.1 each with ⟨first, later⟩
          rw [blockTail_cons, blockTail_cons] at same
          have behind := List.append_cancel_left (List.cons.inj same).2
          rcases item_tells first behind with ⟨rfl, tails⟩
          rcases ih later others tails with ⟨rfl, follow⟩
          exact ⟨rfl, follow⟩

/-- A container tells its items if each item tells itself. -/
theorem block_tells
    {items : List α}
    (opening : Char)
    (visible : closing ≠ '\n')
    (each : ∀ item ∈ items, Tells spell EndsValue item) :
    Tells (fun items => block opening closing depth (items.map spell))
      (fun _ => True) items := by
  intro others rest rest' _ _ same
  cases items with
  | nil =>
      cases others with
      | nil =>
          exact ⟨rfl, List.append_cancel_left same⟩
      | cons other others =>
          have lines := same.trans (block_cons opening other others rest')
          exact absurd (List.cons.inj (List.cons.inj lines).2).1 visible
  | cons item items =>
      cases others with
      | nil =>
          have lines := same.symm.trans (block_cons opening item items rest)
          exact absurd (List.cons.inj (List.cons.inj lines).2).1 visible
      | cons other others =>
          rcases List.forall_mem_cons.1 each with ⟨first, later⟩
          have lines := (block_cons opening item items rest).symm.trans
            (same.trans (block_cons opening other others rest'))
          have behind := List.append_cancel_left (List.cons.inj lines).2
          rcases item_tells first behind with ⟨rfl, tails⟩
          rcases blockTail_tells later others rest rest' trivial trivial tails
            with ⟨rfl, follow⟩
          exact ⟨rfl, follow⟩

theorem allAscii_newline (depth : Nat) : AllAscii (newline depth) := by
  refine .cons (by decide) fun char listed => ?_
  rw [List.eq_of_mem_replicate listed]
  decide

theorem allAscii_block
    {opening : Char}
    {items : List (List Char)}
    (opens : opening.toNat < 0x80)
    (closes : closing.toNat < 0x80)
    (each : ∀ item ∈ items, AllAscii item) :
    AllAscii (block opening closing depth items) := by
  cases items with
  | nil =>
      exact .cons opens (.cons closes .nil)
  | cons first items =>
      rcases List.forall_mem_cons.1 each with ⟨firstAscii, later⟩
      refine .append (.append (.append (.cons opens ?_) ?_) ?_) ?_
      · exact .append (allAscii_newline _) firstAscii
      · refine .flatMap fun item listed => .cons (by decide) ?_
        exact .append (allAscii_newline _) (later item listed)
      · exact allAscii_newline _
      · exact .cons closes .nil

/-! ## Values -/

/-- A property of the parts of a value is one of the value. -/
theorem valueInduction
    {motive : Json → Prop}
    (null : motive .null)
    (int : ∀ value, motive (.int value))
    (str : ∀ text, motive (.str text))
    (arr : ∀ items, (∀ item ∈ items, motive item) → motive (.arr items))
    (obj : ∀ members, (∀ member ∈ members, motive member.2) →
      motive (.obj members)) :
    ∀ value, motive value
  | .null => null
  | .int value => int value
  | .str text => str text
  | .arr items =>
    arr items fun item _ => valueInduction null int str arr obj item
  | .obj members =>
    obj members fun member _ => valueInduction null int str arr obj member.2
decreasing_by
  · decreasing_tactic
  · next listed =>
    have smaller := List.sizeOf_lt_of_mem listed
    rcases member with ⟨name, value⟩
    simp only [Prod.mk.sizeOf_spec, Json.obj.sizeOf_spec] at smaller ⊢
    omega

/-- A member of an object with its name. -/
def writeMember (depth : Nat) (member : String × Json) : List Char :=
  writeText member.1 ++ ':' :: ' ' :: write depth member.2

theorem writeItems_eq_map (depth : Nat) (items : List Json) :
    writeItems depth items = items.map (write depth) := by
  induction items with
  | nil =>
      rfl
  | cons item items ih =>
      rw [writeItems, ih, List.map_cons]

theorem writeMembers_eq_map (depth : Nat) (members : List (String × Json)) :
    writeMembers depth members = members.map (writeMember depth) := by
  induction members with
  | nil =>
      rfl
  | cons member members ih =>
      rw [writeMembers, ih, List.map_cons]
      rfl

/-- The five forms of a value. -/
inductive Form where
  | null
  | number
  | text
  | array
  | object
  deriving DecidableEq

def form : Json → Form
  | .null => .null
  | .int _ => .number
  | .str _ => .text
  | .arr _ => .array
  | .obj _ => .object

/-- The form of a value that begins with a character. -/
def formOf (first : Char) : Form :=
  if first = 'n' then .null
  else if first = '"' then .text
  else if first = '[' then .array
  else if first = '\x7b' then .object
  else .number

theorem formOf_of_isDigit
    {first : Char}
    (digit : first.isDigit = true) :
    formOf first = .number := by
  have ne {char : Char} (other : char.isDigit = false) : first ≠ char := by
    rintro rfl
    rw [other] at digit
    cases digit
  simp [formOf, ne]

/-- The first character of a value tells its form. -/
theorem write_eq_cons (depth : Nat) (value : Json) :
    ∃ first others,
      write depth value = first :: others ∧ formOf first = value.form := by
  cases value with
  | null =>
      exact ⟨_, _, rfl, rfl⟩
  | int value =>
      cases value with
      | ofNat value =>
          rcases toDigits_eq_cons value with ⟨first, others, shape, digit⟩
          exact ⟨first, others, shape, formOf_of_isDigit digit⟩
      | negSucc value =>
          exact ⟨_, _, rfl, rfl⟩
  | str text =>
      exact ⟨_, _, rfl, rfl⟩
  | arr items =>
      cases items with
      | nil =>
          exact ⟨_, _, rfl, rfl⟩
      | cons item items =>
          exact ⟨_, _, rfl, rfl⟩
  | obj members =>
      cases members with
      | nil =>
          exact ⟨_, _, rfl, rfl⟩
      | cons member members =>
          exact ⟨_, _, rfl, rfl⟩

theorem form_eq_of_write_eq
    {first second : Json}
    {rest rest' : List Char}
    (same : write depth first ++ rest = write depth second ++ rest') :
    first.form = second.form := by
  rcases write_eq_cons depth first with ⟨char, others, shape, isForm⟩
  rcases write_eq_cons depth second with ⟨char', others', shape', isForm'⟩
  rw [shape, shape'] at same
  rw [← isForm, ← isForm', (List.cons.inj same).1]

theorem writeMember_tells
    {member : String × Json}
    (tells : Tells (write depth) EndsValue member.2) :
    Tells (writeMember depth) EndsValue member := by
  intro other rest rest' ends ends' same
  simp only [writeMember, List.append_assoc, List.cons_append] at same
  rcases writeText_tells member.1 other.1 _ _ trivial trivial same with
    ⟨name, behind⟩
  rcases
      tells other.2 rest rest' ends ends'
        (List.cons.inj (List.cons.inj behind).2).2 with
    ⟨value, follow⟩
  exact ⟨Prod.ext name value, follow⟩

/-- A value needs to be compared with values of its own form only. -/
theorem tells_of_sameForm
    {value : Json}
    (within : ∀ other rest rest',
      value.form = other.form → EndsValue rest → EndsValue rest' →
        write depth value ++ rest = write depth other ++ rest' →
          value = other ∧ rest = rest') :
    Tells (write depth) EndsValue value :=
  fun other rest rest' ends ends' same =>
    within other rest rest' (form_eq_of_write_eq same) ends ends' same

/-- The written form of a value tells the value and where it ends. -/
theorem write_tells (value : Json) (depth : Nat) :
    Tells (write depth) EndsValue value := by
  induction value using valueInduction generalizing depth with
  | null =>
      refine tells_of_sameForm fun other rest rest' sameForm _ _ same => ?_
      cases other with
      | null => exact ⟨rfl, List.append_cancel_left same⟩
      | _ => cases sameForm
  | int value =>
      refine tells_of_sameForm fun other rest rest' sameForm ends ends' same =>
        ?_
      cases other with
      | int other =>
          rcases writeInt_tells value other rest rest' ends ends' same with
            ⟨rfl, follow⟩
          exact ⟨rfl, follow⟩
      | _ => cases sameForm
  | str text =>
      refine tells_of_sameForm fun other rest rest' sameForm _ _ same => ?_
      cases other with
      | str other =>
          rcases writeText_tells text other rest rest' trivial trivial same
            with ⟨rfl, follow⟩
          exact ⟨rfl, follow⟩
      | _ => cases sameForm
  | arr items each =>
      refine tells_of_sameForm fun other rest rest' sameForm _ _ same => ?_
      cases other with
      | arr others =>
          rw [write, write, writeItems_eq_map, writeItems_eq_map] at same
          rcases
              block_tells '[' (by decide)
                (fun item listed => each item listed (depth + 1))
                others rest rest' trivial trivial same with
            ⟨rfl, follow⟩
          exact ⟨rfl, follow⟩
      | _ => cases sameForm
  | obj members each =>
      refine tells_of_sameForm fun other rest rest' sameForm _ _ same => ?_
      cases other with
      | obj others =>
          rw [write, write, writeMembers_eq_map, writeMembers_eq_map] at same
          rcases
              block_tells '\x7b' (by decide)
                (fun member listed =>
                  writeMember_tells (each member listed (depth + 1)))
                others rest rest' trivial trivial same with
            ⟨rfl, follow⟩
          exact ⟨rfl, follow⟩
      | _ => cases sameForm

/-- Values that are written alike are the same. -/
theorem render_injective : Function.Injective render := by
  intro first second same
  have alike : first.write 0 ++ [] = second.write 0 ++ [] := by
    rw [String.ofList_injective same]
  exact (write_tells first 0 second [] [] rfl rfl alike).1

theorem allAscii_writeInt (value : Int) : AllAscii (writeInt value) := by
  have digits (number : Nat) : AllAscii (Nat.toDigits 10 number) := by
    intro char listed
    have digit := Nat.isDigit_of_mem_toDigits (by decide) (by decide) listed
    have bounds : 48 ≤ char.toNat ∧ char.toNat ≤ 57 := by
      simpa [Char.isDigit, UInt32.le_iff_toNat_le] using digit
    omega
  cases value with
  | ofNat value =>
      exact digits value
  | negSucc value =>
      exact .cons (by decide) (digits (value + 1))

theorem allAscii_write (value : Json) (depth : Nat) :
    AllAscii (write depth value) := by
  induction value using valueInduction generalizing depth with
  | null =>
      exact .cons (by decide) (.cons (by decide)
        (.cons (by decide) (.cons (by decide) .nil)))
  | int value =>
      exact allAscii_writeInt value
  | str text =>
      exact allAscii_writeText text
  | arr items each =>
      rw [write, writeItems_eq_map]
      refine allAscii_block (by decide) (by decide)
        (List.forall_mem_map.2 fun item listed => ?_)
      exact each item listed _
  | obj members each =>
      rw [write, writeMembers_eq_map]
      refine allAscii_block (by decide) (by decide)
        (List.forall_mem_map.2 fun member listed => ?_)
      exact .append (allAscii_writeText _)
        (.cons (by decide) (.cons (by decide) (each member listed _)))

theorem allAscii_render (value : Json) : AllAscii value.render.toList := by
  rw [render, String.toList_ofList]
  exact allAscii_write value 0

end Sprig.Json
