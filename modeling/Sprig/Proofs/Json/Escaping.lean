import Mathlib.Algebra.Group.Nat.Defs
import Sprig.Json.Printer

/-!
# Written texts are unambiguous

A character inside a written text stands for itself, or a backslash and a
letter stand for it, or the numerals of its UTF-16 units do.  Which of the
three it is shows at its first two characters, and each of the three tells the
character and where it ends.  The quote that ends a text stands for nothing
inside it, so the written form of a text tells the text and where it ends.

`Tells` states this for one value and any way of writing.  It is told with a
class of texts that may follow, because numbers need one.
-/

namespace Sprig

open Sprig.Text (hex)

/--
What is written of a value tells the value and where it ends, whatever text of
a class follows it.
-/
def Tells
    {α : Type}
    (write : α → List Char)
    (Follows : List Char → Prop)
    (value : α) : Prop :=
  ∀ other rest rest',
    Follows rest → Follows rest' →
      write value ++ rest = write other ++ rest' →
        value = other ∧ rest = rest'

/-- Every character is in the range of ASCII. -/
def AllAscii (text : List Char) : Prop :=
  ∀ char ∈ text, char.toNat < 0x80

namespace AllAscii

variable {first second : List Char}

theorem nil : AllAscii [] :=
  List.forall_mem_nil _

theorem cons
    {char : Char}
    (small : char.toNat < 0x80)
    (ascii : AllAscii first) :
    AllAscii (char :: first) :=
  List.forall_mem_cons.2 ⟨small, ascii⟩

theorem append
    (left : AllAscii first)
    (right : AllAscii second) :
    AllAscii (first ++ second) :=
  List.forall_mem_append.2 ⟨left, right⟩

theorem flatMap
    {α : Type}
    {items : List α}
    {write : α → List Char}
    (each : ∀ item ∈ items, AllAscii (write item)) :
    AllAscii (items.flatMap write) := by
  intro char found
  rcases List.mem_flatMap.1 found with ⟨item, listed, inside⟩
  exact each item listed char inside

end AllAscii

/-! ## Numerals -/

theorem digitChar_inj :
    ∀ first < 16, ∀ second < 16,
      Nat.digitChar first = Nat.digitChar second → first = second := by
  decide

theorem toNat_digitChar_lt :
    ∀ digit < 16, (Nat.digitChar digit).toNat < 0x80 := by
  decide

/-- A numeral that is wide enough tells its number. -/
theorem hex_inj
    {width first second : Nat}
    (firstFits : first < 16 ^ width)
    (secondFits : second < 16 ^ width)
    (same : hex width first = hex width second) :
    first = second := by
  induction width generalizing first second with
  | zero =>
      rw [Nat.pow_zero, Nat.lt_one_iff] at firstFits secondFits
      rw [firstFits, secondFits]
  | succ width ih =>
      rw [Nat.pow_succ'] at firstFits secondFits
      rcases List.append_inj' same rfl with ⟨higher, last⟩
      have quotient := ih (Nat.div_lt_of_lt_mul firstFits)
        (Nat.div_lt_of_lt_mul secondFits) higher
      have remainder := digitChar_inj _ (Nat.mod_lt _ (by decide)) _
        (Nat.mod_lt _ (by decide)) (List.singleton_inj.1 last)
      omega

theorem allAscii_hex (width value : Nat) : AllAscii (hex width value) := by
  induction width generalizing value with
  | zero =>
      exact .nil
  | succ width ih =>
      refine .append (ih _) (.cons ?_ .nil)
      exact toNat_digitChar_lt _ (Nat.mod_lt _ (by decide))

namespace Json

variable {rest rest' : List Char}

/-! ## Escapes -/

theorem unitEscape_inj
    {first second : Nat}
    (firstFits : first < 0x10000)
    (secondFits : second < 0x10000)
    (same : unitEscape first ++ rest = unitEscape second ++ rest') :
    first = second ∧ rest = rest' := by
  simp only [unitEscape, List.cons_append, List.cons.injEq, true_and] at same
  have lengths : (hex 4 first).length = (hex 4 second).length := by
    simp
  rcases List.append_inj same lengths with ⟨digits, follow⟩
  exact ⟨hex_inj firstFits secondFits digits, follow⟩

/-- No character is a surrogate, so the first unit tells whether there is another. -/
theorem codePointEscape_inj
    {first second : Char}
    (same : codePointEscape first.toNat ++ rest =
      codePointEscape second.toNat ++ rest') :
    first = second ∧ rest = rest' := by
  have firstValid : first.toNat.isValidChar := first.valid
  have secondValid : second.toNat.isValidChar := second.valid
  rw [Nat.isValidChar] at firstValid secondValid
  rw [← Char.toNat_inj]
  unfold codePointEscape at same
  split at same <;> split at same
  next firstSmall secondSmall =>
    exact unitEscape_inj firstSmall secondSmall same
  next firstSmall secondLarge =>
    rw [List.append_assoc] at same
    have high := (unitEscape_inj firstSmall (by omega) same).1
    omega
  next firstLarge secondSmall =>
    rw [List.append_assoc] at same
    have high := (unitEscape_inj (by omega) secondSmall same).1
    omega
  next firstLarge secondLarge =>
    rw [List.append_assoc, List.append_assoc] at same
    rcases unitEscape_inj (by omega) (by omega) same with ⟨high, same⟩
    rcases unitEscape_inj (by omega) (by omega) same with ⟨low, follow⟩
    exact ⟨by omega, follow⟩

/-- A numeral begins with a backslash and the letter u. -/
theorem codePointEscape_eq_cons (code : Nat) :
    ∃ digits, codePointEscape code = '\\' :: 'u' :: digits := by
  unfold codePointEscape
  split
  · exact ⟨_, rfl⟩
  · exact ⟨_, rfl⟩

theorem allAscii_unitEscape (unit : Nat) : AllAscii (unitEscape unit) :=
  .cons (by decide) (.cons (by decide) (allAscii_hex 4 unit))

theorem allAscii_codePointEscape (code : Nat) :
    AllAscii (codePointEscape code) := by
  unfold codePointEscape
  split
  · exact allAscii_unitEscape _
  · exact .append (allAscii_unitEscape _) (allAscii_unitEscape _)

/-! ## Characters -/

/-- The characters for which a backslash and a letter stand. -/
def shortEscapes : List (Char × Char) :=
  [('"', '"'), ('\\', '\\'), ('\n', 'n'), ('\r', 'r'), ('\t', 't'),
   ('\x08', 'b'), ('\x0c', 'f')]

/-- No letter stands for two characters, and none begins a numeral. -/
theorem shortEscapes_letter :
    ∀ first ∈ shortEscapes,
      first.2 ≠ 'u' ∧ first.2.toNat < 0x80 ∧
        ∀ second ∈ shortEscapes,
          first.2 = second.2 → first.1 = second.1 := by
  decide

/-- The three forms that a character takes. -/
inductive Written (char : Char) : List Char → Prop where
  | plain
      (notQuote : char ≠ '"')
      (notBackslash : char ≠ '\\')
      (small : char.toNat < 0x80) :
      Written char [char]
  | short
      {letter : Char}
      (listed : (char, letter) ∈ shortEscapes) :
      Written char ['\\', letter]
  | numeral :
      Written char (codePointEscape char.toNat)

theorem written_writeChar (char : Char) : Written char (writeChar char) := by
  fun_cases writeChar char
  next quote => subst quote; exact .short (by decide)
  next backslash => subst backslash; exact .short (by decide)
  next feed => subst feed; exact .short (by decide)
  next carriageReturn => subst carriageReturn; exact .short (by decide)
  next tab => subst tab; exact .short (by decide)
  next backspace => subst backspace; exact .short (by decide)
  next formFeed => subst formFeed; exact .short (by decide)
  next notQuote notBackslash _ _ _ _ _ range =>
    exact .plain notQuote notBackslash (by omega)
  next => exact .numeral

theorem Written.tells
    {first second : Char}
    {text text' : List Char}
    (firstWritten : Written first text)
    (secondWritten : Written second text')
    (same : text ++ rest = text' ++ rest') :
    first = second ∧ rest = rest' := by
  cases firstWritten with
  | plain _ notBackslash _ =>
      cases secondWritten with
      | plain =>
          exact List.cons.inj same
      | short =>
          exact absurd (List.cons.inj same).1 notBackslash
      | numeral =>
          rcases codePointEscape_eq_cons second.toNat with ⟨digits, shape⟩
          rw [shape] at same
          exact absurd (List.cons.inj same).1 notBackslash
  | @short letter listed =>
      rcases shortEscapes_letter _ listed with ⟨notU, -, unique⟩
      cases secondWritten with
      | plain _ notBackslash _ =>
          exact absurd (List.cons.inj same).1.symm notBackslash
      | short listed' =>
          rcases List.cons.inj (List.cons.inj same).2 with ⟨letters, follow⟩
          exact ⟨unique _ listed' letters, follow⟩
      | numeral =>
          rcases codePointEscape_eq_cons second.toNat with ⟨digits, shape⟩
          rw [shape] at same
          exact absurd (List.cons.inj (List.cons.inj same).2).1 notU
  | numeral =>
      rcases codePointEscape_eq_cons first.toNat with ⟨digits, shape⟩
      cases secondWritten with
      | plain _ notBackslash _ =>
          rw [shape] at same
          exact absurd (List.cons.inj same).1.symm notBackslash
      | short listed' =>
          rw [shape] at same
          exact absurd (List.cons.inj (List.cons.inj same).2).1.symm
            (shortEscapes_letter _ listed').1
      | numeral =>
          exact codePointEscape_inj same

/-- No character is written with a quote in front. -/
theorem Written.head?_ne
    {char : Char}
    {text : List Char}
    (written : Written char text) :
    ∃ first others, text = first :: others ∧ first ≠ '"' := by
  cases written with
  | plain notQuote _ _ =>
      exact ⟨_, _, rfl, notQuote⟩
  | short =>
      exact ⟨_, _, rfl, by decide⟩
  | numeral =>
      rcases codePointEscape_eq_cons char.toNat with ⟨digits, shape⟩
      exact ⟨_, _, shape, by decide⟩

theorem Written.allAscii
    {char : Char}
    {text : List Char}
    (written : Written char text) :
    AllAscii text := by
  cases written with
  | plain _ _ small =>
      exact .cons small .nil
  | short listed =>
      exact .cons (by decide) (.cons (shortEscapes_letter _ listed).2.1 .nil)
  | numeral =>
      exact allAscii_codePointEscape _

/-! ## Texts -/

/-- The characters of a text and the quote behind them tell the characters. -/
theorem characters_tell
    {first second : List Char}
    (same : first.flatMap writeChar ++ '"' :: rest =
      second.flatMap writeChar ++ '"' :: rest') :
    first = second ∧ rest = rest' := by
  induction first generalizing second with
  | nil =>
      cases second with
      | nil =>
          exact ⟨rfl, (List.cons.inj same).2⟩
      | cons char second =>
          rcases (written_writeChar char).head?_ne with
            ⟨begin_, others, shape, notQuote⟩
          rw [List.flatMap_cons, shape] at same
          exact absurd (List.cons.inj same).1.symm notQuote
  | cons char first ih =>
      cases second with
      | nil =>
          rcases (written_writeChar char).head?_ne with
            ⟨begin_, others, shape, notQuote⟩
          rw [List.flatMap_cons, shape] at same
          exact absurd (List.cons.inj same).1 notQuote
      | cons char' second =>
          rw [List.flatMap_cons, List.flatMap_cons, List.append_assoc,
            List.append_assoc] at same
          rcases (written_writeChar char).tells (written_writeChar char') same
            with ⟨rfl, later⟩
          rcases ih later with ⟨rfl, follow⟩
          exact ⟨rfl, follow⟩

theorem writeText_tells (text : String) :
    Tells writeText (fun _ => True) text := by
  intro other rest rest' _ _ same
  simp only [writeText, List.cons_append, List.append_assoc, List.nil_append,
    List.cons.injEq, true_and] at same
  rcases characters_tell same with ⟨characters, follow⟩
  exact ⟨String.toList_inj.1 characters, follow⟩

theorem allAscii_writeText (text : String) : AllAscii (writeText text) := by
  refine .cons (by decide) (.append (.flatMap fun char _ => ?_) ?_)
  · exact (written_writeChar char).allAscii
  · exact .cons (by decide) .nil

end Json

end Sprig
