import Sprig.Proofs.Parser.Reading
import Sprig.Proofs.Parser.Trait
import Sprig.Proofs.Text.LineColumn

/-!
# Cursors keep track of the text

The readers of a parser may be called one after another in any order, with any
symbols and any wordings, whether the calls before succeeded or not.  A cursor
that such a run of calls has reached still knows where it is: its offset lies
inside the source, what is ahead of it is the source from the offset on, and
its line and column are those of the offset.

The reason is that a reader does one thing to a cursor.  It moves the cursor
over a text that comes next, character by character, and `Passes` says which
text.  That is a trait, so every reader of the grammar has it, also when it
fails.
-/

namespace Sprig

open Sprig.Text

namespace Cursor

/-- The cursor has been moved over a text that came next. -/
structure Passes (cursor : Cursor) (text : List Char) (after : Cursor) :
    Prop where
  rest : cursor.rest = text ++ after.rest
  location : after.location = cursor.location.advanceAll text

namespace Passes

variable {cursor middle after : Cursor}
variable {first second text : List Char}

theorem nothing (cursor : Cursor) : cursor.Passes [] cursor where
  rest := rfl
  location := rfl

theorem trans
    (passed : cursor.Passes first middle)
    (further : middle.Passes second after) :
    cursor.Passes (first ++ second) after where
  rest := by
    rw [passed.rest, further.rest, List.append_assoc]
  location := by
    rw [further.location, passed.location, Location.advanceAll_append]

theorem dropWhile (cursor : Cursor) (class? : Char → Bool) :
    cursor.Passes (cursor.rest.takeWhile class?) (cursor.dropWhile class?) where
  rest := List.takeWhile_append_dropWhile.symm
  location := rfl

/-- The offset counts what has been passed. -/
theorem offset (passed : cursor.Passes text after) :
    after.location.offset = cursor.location.offset + text.length := by
  rw [passed.location, Location.offset_advanceAll]

end Passes

/-- The cursor knows its place in a source. -/
structure Tracks (cursor : Cursor) (source : List Char) : Prop where
  inside : cursor.location.offset ≤ source.length
  ahead : cursor.rest = source.drop cursor.location.offset
  placed : cursor.pos = posAt source cursor.location.offset

/-- A cursor that has passed the beginning of a source knows its place in it. -/
theorem Passes.tracks
    {source : String}
    {cursor : Cursor}
    {behind : List Char}
    (passed : (start source).Passes behind cursor) :
    cursor.Tracks source.toList := by
  have split : source.toList = behind ++ cursor.rest := passed.rest
  have counted : cursor.location.offset = behind.length :=
    passed.offset.trans (Nat.zero_add _)
  refine ⟨?_, ?_, ?_⟩
  · rw [counted, split, List.length_append]
    exact Nat.le_add_right _ _
  · rw [counted, split, List.drop_left]
  · rw [counted, posAt, split, List.take_left, ← pos_advanceAll_start]
    exact congrArg Location.pos passed.location

end Cursor

namespace Parser

/-- The cursor is moved over what comes next, and nothing else. -/
def Moves {α : Type} (reader : Parser α) : Prop :=
  ∀ cursor : Cursor, ∃ text, cursor.Passes text (finalState (reader cursor))

namespace Moves

variable {α β : Type}

theorem stays {reader : Parser α}
    (stays : ∀ cursor, finalState (reader cursor) = cursor) :
    Moves reader := by
  intro cursor
  rw [stays cursor]
  exact ⟨[], .nothing cursor⟩

theorem bind
    {action : Parser α}
    {next : α → Parser β}
    (first : Moves action)
    (second : ∀ value, Moves (next value)) :
    Moves (action >>= next) := by
  intro cursor
  rcases first cursor with ⟨text, passed⟩
  cases outcome : action cursor with
  | ok value middle =>
      rw [outcome] at passed
      rw [bind_eq_of_ok outcome]
      rcases second value middle with ⟨more, further⟩
      exact ⟨text ++ more, passed.trans further⟩
  | error error middle =>
      rw [outcome] at passed
      rw [bind_eq_of_error outcome]
      exact ⟨text, passed⟩

end Moves

/-- A failure that says what is missing passes blanks on its way. -/
theorem moves_failExpecting {α : Type} (what : String) :
    Moves (failExpecting what : Parser α) :=
  fun cursor => ⟨_, .dropWhile cursor isBlank⟩

/-- Every step moves the cursor over what comes next, so every reader does. -/
def motion : Trait where
  Holds := Moves
  holds_pure := fun _ => .stays fun _ => rfl
  holds_bind := .bind
  holds_get := .stays fun _ => rfl
  holds_skipBlanks := fun cursor => ⟨_, .dropWhile cursor isBlank⟩
  holds_consume := by
    rintro ⟨location, rest⟩
    cases rest with
    | nil =>
        exact ⟨[], .nothing _⟩
    | cons char rest =>
        exact ⟨[char], rfl, rfl⟩
  holds_run := fun class? cursor => ⟨_, .dropWhile cursor class?⟩
  holds_failExpecting := fun what _ => moves_failExpecting what
  holds_callStatement := fun _ => .stays fun _ => rfl
  holds_stalled := fun _ => .stays fun _ => rfl

/-! ## Runs of calls -/

/-- A call of one of the readers, with what it is given. -/
inductive Call where
  | peek
  | consume
  | skipBlanks
  | atEnd
  | atSymbol (symbol : String)
  | accept (symbol : String)
  | require (symbol : String)
  | ident?
  | ident (what : String)
  | numeral?
  | lookahead
  | expecting (what : String)
  | here
  | function
  | decl
  | decls (first : Decl)
  | idents (first : String)
  | typeRef
  | stmt
  | declStmt (pos : Pos) (names : List String)
  | expr (prec : Int)
  | atom
  deriving DecidableEq, Repr

/-- What a call does; its result is dropped. -/
def Call.perform : Call → Parser Unit
  | peek => discard Parser.peek
  | consume => discard Parser.consume
  | skipBlanks => Parser.skipBlanks
  | atEnd => discard Parser.atEnd
  | atSymbol symbol => discard (Parser.atSymbol symbol)
  | accept symbol => discard (Parser.accept symbol)
  | require symbol => Parser.require symbol
  | ident? => discard Parser.ident?
  | ident what => discard (Parser.ident what)
  | numeral? => discard Parser.numeral?
  | lookahead => discard do
    Parser.skipBlanks
    return (← get).lookahead
  | expecting what => discard (Parser.expecting what)
  | here => discard Parser.here
  | function => discard Parser.function
  | decl => discard Parser.decl
  | decls first => discard (Parser.decls first)
  | idents first => discard (Parser.idents first)
  | typeRef => discard Parser.typeRef
  | stmt => discard Parser.stmt
  | declStmt pos names => discard (Parser.declStmt pos names)
  | expr prec => discard (Parser.expr prec)
  | atom => discard Parser.atom

theorem Call.moves (call : Call) : Moves call.perform := by
  cases call with
  | peek => exact motion.holds_discard motion.holds_peek
  | consume => exact motion.holds_discard motion.holds_consume
  | skipBlanks => exact motion.holds_skipBlanks
  | atEnd => exact motion.holds_discard motion.holds_atEnd
  | atSymbol symbol => exact motion.holds_discard (motion.holds_atSymbol symbol)
  | accept symbol => exact motion.holds_discard (motion.holds_accept symbol)
  | require symbol => exact motion.holds_require (moves_failExpecting _)
  | ident? => exact motion.holds_discard motion.holds_ident?
  | ident what =>
      exact motion.holds_discard (motion.holds_ident (moves_failExpecting what))
  | numeral? => exact motion.holds_discard motion.holds_numeral?
  | lookahead =>
      exact motion.holds_discard (motion.holds_behindBlanks Cursor.lookahead)
  | expecting what => exact motion.holds_discard (motion.holds_expecting what)
  | here => exact motion.holds_discard motion.holds_here
  | function => exact motion.holds_discard motion.holds_function
  | decl => exact motion.holds_discard motion.holds_decl
  | decls first => exact motion.holds_discard (motion.holds_decls first)
  | idents first => exact motion.holds_discard (motion.holds_idents first)
  | typeRef => exact motion.holds_discard motion.holds_typeRef
  | stmt => exact motion.holds_discard motion.holds_stmt
  | declStmt pos names =>
      exact motion.holds_discard (motion.holds_declStmt pos names)
  | expr prec => exact motion.holds_discard (motion.holds_expr prec)
  | atom => exact motion.holds_discard motion.holds_atom

end Parser

namespace Cursor

/-- The cursor after a call, whether the call succeeds or fails. -/
def after (cursor : Cursor) (call : Parser.Call) : Cursor :=
  finalState (call.perform cursor)

/-- The cursor after a run of calls. -/
def afterAll (cursor : Cursor) (calls : List Parser.Call) : Cursor :=
  calls.foldl after cursor

/-- A run of calls moves the cursor over what comes next. -/
theorem exists_passes_afterAll
    (cursor : Cursor)
    (calls : List Parser.Call) :
    ∃ text, cursor.Passes text (cursor.afterAll calls) := by
  induction calls generalizing cursor with
  | nil =>
      exact ⟨[], .nothing cursor⟩
  | cons call calls ih =>
      rcases call.moves cursor with ⟨text, passed⟩
      rcases ih (cursor.after call) with ⟨more, further⟩
      exact ⟨text ++ more, passed.trans further⟩

/--
After any calls the cursor knows its place in the source, further calls never
move it back, and an error is built at the next token, on the way to which
only blanks are passed.
-/
theorem calls_track_source
    (source : String)
    (calls : List Parser.Call) :
    let cursor := (start source).afterAll calls
    cursor.Tracks source.toList ∧
      (∀ more,
        cursor.location.offset ≤ (cursor.afterAll more).location.offset) ∧
      ∀ what, ∃ blanks next,
        Parser.expecting what cursor =
            .ok ⟨.expected what next.lookahead, next.pos⟩ next ∧
          cursor.after (.expecting what) = next ∧
          cursor.Passes blanks next ∧
          (∀ char ∈ blanks, isBlank char = true) ∧
          next.AtToken := by
  intro cursor
  rcases exists_passes_afterAll (start source) calls with ⟨behind, passed⟩
  refine ⟨passed.tracks, fun more => ?_, fun what => ?_⟩
  · rcases exists_passes_afterAll cursor more with ⟨text, further⟩
    rw [further.offset]
    exact Nat.le_add_right _ _
  · refine ⟨cursor.rest.takeWhile isBlank, cursor.skipBlanks,
      Parser.expecting_eq what cursor, rfl, .dropWhile cursor isBlank, ?_,
      cursor.atToken_skipBlanks⟩
    exact List.all_eq_true.1 List.all_takeWhile

end Cursor

end Sprig
