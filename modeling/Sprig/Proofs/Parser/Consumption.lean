import Sprig.Proofs.Parser.Tracking
import Sprig.Proofs.Parser.Viability

/-!
# Readers consume or refuse

A reader of the grammar that gives a result has consumed a character that is
no blank, and one that fails refuses what stands next.  The two faults that
are the parser's own never occur: no character is consumed where none is left,
and no loop runs out of rounds.

`Consumes` says what a success has consumed.  It needs one part of a sequence
to consume; the other parts only have to move the cursor over what comes next,
which is a trait that all readers have.  `Winding` says of a loop that every
round with a result consumes, so that any rounds beyond the characters ahead
are idle.

Runs of characters are passed at once here, and so are blanks.  `consumeWhile`
passes them one by one, as long as one comes next, and comes to the same.
-/

namespace Sprig

open Sprig.Text

namespace Cursor

variable {cursor middle after : Cursor}
variable {text : List Char}

/-- The cursor has been moved over a text that is not blank throughout. -/
def PassesSolid (cursor after : Cursor) : Prop :=
  ∃ text, cursor.Passes text after ∧ ∃ char ∈ text, isBlank char = false

theorem PassesSolid.behind
    (passed : cursor.Passes text middle)
    (solid : middle.PassesSolid after) :
    cursor.PassesSolid after := by
  rcases solid with ⟨more, further, char, member, solid⟩
  exact ⟨text ++ more, passed.trans further, char,
    List.mem_append_right text member, solid⟩

theorem PassesSolid.before
    (solid : cursor.PassesSolid middle)
    (passed : middle.Passes text after) :
    cursor.PassesSolid after := by
  rcases solid with ⟨first, begun, char, member, solid⟩
  exact ⟨first ++ text, begun.trans passed, char,
    List.mem_append_left text member, solid⟩

/-- What is passed behind blanks does not begin with another blank. -/
theorem Passes.solid
    (passed : cursor.skipBlanks.Passes text after)
    (nonempty : text ≠ []) :
    cursor.PassesSolid after := by
  refine .behind (.dropWhile cursor isBlank) ⟨text, passed, ?_⟩
  cases text with
  | nil =>
      exact (nonempty rfl).elim
  | cons char text =>
      have atToken := cursor.atToken_skipBlanks
      rw [AtToken, passed.rest] at atToken
      exact ⟨char, .head text, atToken⟩

end Cursor

/-- A fault of the text: the parser refuses what stands there. -/
inductive SyntaxFault.IsRefusal : SyntaxFault → Prop where
  | expected (what : String) (found : Lookahead) :
      IsRefusal (.expected what found)
  | callStatement :
      IsRefusal .callStatement

theorem Misfit.isRefusal
    {error : SyntaxError}
    {after : Cursor}
    (misfit : Misfit error after) :
    error.fault.IsRefusal := by
  rcases misfit.expected with ⟨what, rfl⟩
  exact .expected what after.lookahead

namespace Parser

variable {α β : Type}
variable {cursor after : Cursor}

/-! ## What a success has consumed -/

/-- A success has passed a character that is no blank. -/
def Consumes (reader : Parser α) : Prop :=
  ∀ cursor value after, reader cursor = .ok value after →
    cursor.PassesSolid after

theorem Moves.passes
    {reader : Parser α}
    {value : α}
    (moves : Moves reader)
    (read : reader cursor = .ok value after) :
    ∃ text, cursor.Passes text after := by
  have passed := moves cursor
  rwa [read] at passed

namespace Consumes

/-- The second part of a sequence consumes. -/
theorem behind
    {action : Parser α}
    {next : α → Parser β}
    (moves : Moves action)
    (consumes : ∀ value, Consumes (next value)) :
    Consumes (action >>= next) := by
  intro cursor result after read
  rcases exists_of_bind_eq_ok read with ⟨value, middle, first, second⟩
  rcases moves.passes first with ⟨text, passed⟩
  exact .behind passed (consumes value middle result after second)

/-- The first part of a sequence consumes. -/
theorem before
    {action : Parser α}
    {next : α → Parser β}
    (consumes : Consumes action)
    (moves : ∀ value, Moves (next value)) :
    Consumes (action >>= next) := by
  intro cursor result after read
  rcases exists_of_bind_eq_ok read with ⟨value, middle, first, second⟩
  rcases (moves value).passes second with ⟨text, passed⟩
  exact .before (consumes cursor value middle first) passed

end Consumes

/-! ## Tokens -/

theorem consumes_require
    {symbol : String}
    (nonempty : symbol.toList ≠ []) :
    Consumes (require symbol) := by
  intro cursor value after read
  rcases rest_of_accept (accept_of_require read) with ⟨rest, next, rfl, -⟩
  exact Cursor.Passes.solid ⟨next, rfl⟩ nonempty

/-- A name that is found is not empty. -/
theorem passesSolid_of_ident?
    {name : String}
    (read : ident? cursor = .ok (some name) after) :
    cursor.PassesSolid after := by
  rw [ident?_eq] at read
  split at read
  next begins =>
    cases read
    apply Cursor.Passes.solid (.dropWhile cursor.skipBlanks isAlphanumeric)
    rw [Cursor.next?, Option.any_eq_true] at begins
    rcases begins with ⟨char, first, isLetter⟩
    rcases List.head?_eq_some_iff.1 first with ⟨rest, ahead⟩
    rw [ahead, List.takeWhile_cons_of_pos (isAlphanumeric_of_isLetter isLetter)]
    exact List.cons_ne_nil _ _
  next =>
    cases read

theorem passesSolid_of_numeral?
    {text : String}
    (read : numeral? cursor = .ok (some text) after) :
    cursor.PassesSolid after := by
  rw [numeral?_eq] at read
  split at read
  next =>
    cases read
  next nonempty =>
    cases read
    apply Cursor.Passes.solid (.dropWhile cursor.skipBlanks isNumeric)
    exact mt List.isEmpty_iff.2 nonempty

theorem consumes_ident (what : String) : Consumes (ident what) := by
  intro cursor name after read
  rcases exists_of_bind_eq_ok read with ⟨found, middle, readName, rest⟩
  cases found with
  | some found =>
      cases rest
      exact passesSolid_of_ident? readName
  | none =>
      cases rest

/-! ## The grammar -/

theorem consumes_typeRef : Consumes typeRef :=
  .behind motion.holds_here fun _ =>
    .before (consumes_ident "type") fun _ => motion.holds_pure _

theorem consumes_atom : Consumes atom := by
  refine .behind motion.holds_here fun pos => ?_
  intro cursor value after read
  rcases exists_of_bind_eq_ok read with ⟨number, middle, readNumber, rest⟩
  cases number with
  | some text =>
      cases rest
      exact passesSolid_of_numeral? readNumber
  | none =>
      rcases exists_of_bind_eq_ok rest with ⟨found, later, readName, rest⟩
      cases found with
      | some name =>
          cases rest
          rcases motion.holds_numeral?.passes readNumber with ⟨text, passed⟩
          exact .behind passed (passesSolid_of_ident? readName)
      | none =>
          cases rest

theorem consumes_expr (prec : Int) : Consumes (expr prec) :=
  .before consumes_atom fun _ =>
    motion.holds_ite (motion.holds_pure _) <|
      motion.holds_bind (motion.holds_atSymbol _) fun _ =>
        motion.holds_ite
          (motion.holds_bind (motion.holds_afterCommas motion.holds_atom)
            fun _ => motion.holds_pure _)
          (motion.holds_pure _)

theorem consumes_decl : Consumes decl :=
  .behind motion.holds_here fun _ =>
    .before (consumes_ident "identifier") fun first =>
      motion.holds_bind (motion.holds_idents first) fun _ =>
      motion.holds_bind (motion.holds_require (moves_failExpecting _)) fun _ =>
      motion.holds_bind motion.holds_typeRef fun _ => motion.holds_pure _

theorem consumes_stmt : Consumes stmt :=
  .behind motion.holds_here fun pos =>
    .before (consumes_ident "statement") fun first =>
      motion.holds_bind (motion.holds_beginsReturn first) fun _ =>
        motion.holds_ite
          (motion.holds_bind (motion.holds_expr _) fun _ =>
            motion.holds_pure _)
          (motion.holds_namesStmt pos first)

/-- A function consumes the word that it begins with. -/
theorem consumes_function : Consumes function := by
  have symbol (mark : String) : Moves (require mark) :=
    motion.holds_require (moves_failExpecting _)
  refine .behind motion.holds_here fun pos => ?_
  refine .before (consumes_require (by decide)) fun _ => ?_
  refine motion.holds_bind
    (motion.holds_ident (moves_failExpecting _)) fun name => ?_
  refine motion.holds_bind (symbol "(") fun _ => ?_
  refine motion.holds_bind motion.holds_params fun groups => ?_
  refine motion.holds_bind (symbol ")") fun _ => ?_
  refine motion.holds_bind motion.holds_rets fun types => ?_
  refine motion.holds_bind (symbol "\x7b") fun _ => ?_
  refine motion.holds_bind (motion.holds_many motion.holds_bodyStep)
    fun body => ?_
  refine motion.holds_bind motion.holds_atEnd fun _ => ?_
  exact motion.holds_ite (motion.holds_pure _) (moves_failExpecting _)

/-! ## What a failure says -/

/-- Whatever a reader fails with is a refusal. -/
def Refuses (reader : Parser α) : Prop :=
  ∀ cursor error after, reader cursor = .error error after →
    error.fault.IsRefusal

theorem Viable.refuses
    {reader : Parser α}
    {good : α → Prop}
    {spelling : α → List Lexeme}
    (viable : Viable reader good spelling) :
    Refuses reader :=
  fun cursor error after fails => (viable cursor error after fails).1.isRefusal

/-- From the precedence of tuples on, precedences make no difference. -/
theorem expr_of_tuplePrec_le
    {prec : Int}
    (tuples : ¬ prec < tuplePrec) :
    expr prec = expr tuplePrec := by
  simp only [expr, if_neg tuples, if_neg (Int.lt_irrefl tuplePrec)]

theorem refuses_expr (prec : Int) : Refuses (expr prec) := by
  by_cases below : prec < tuplePrec
  · intro cursor error after fails
    rcases fails_of_bind_eq_error fails with
      atomFails | ⟨first, middle, -, rest⟩
    · exact atom_viable.refuses cursor error after atomFails
    · rw [if_pos below] at rest
      cases rest
  · rw [expr_of_tuplePrec_le below]
    exact expr_viable.refuses

theorem refuses_stmt : Refuses stmt := by
  intro cursor error after fails
  rcases stmt_fails fails with ⟨misfit, -⟩ | ⟨rfl, -⟩
  · exact misfit.isRefusal
  · exact .callStatement

theorem refuses_body : Refuses (many bodyStep) := by
  intro cursor error after fails
  rcases body_fails fails with ⟨misfit, -⟩ | ⟨_, _, -, -, -, rfl, -⟩
  · exact misfit.isRefusal
  · exact .callStatement

theorem refuses_function : Refuses function := by
  intro cursor error after fails
  rcases function_fails fails with
    ⟨misfit, -⟩ | ⟨_, _, _, -, -, -, -, rfl, -⟩
  · exact misfit.isRefusal
  · exact .callStatement

/-! ## Loops -/

/-- Rounds beyond the characters that are ahead are idle. -/
theorem repeated_eq_repeated
    {step : Parser (Option α)}
    (advancing : Advancing step)
    {rounds others : Nat}
    (enough : cursor.rest.length < rounds)
    (alsoEnough : cursor.rest.length < others) :
    repeated step rounds cursor = repeated step others cursor := by
  induction rounds generalizing cursor others with
  | zero =>
      exact (Nat.not_lt_zero _ enough).elim
  | succ rounds ih =>
      rcases Nat.exists_eq_add_one_of_ne_zero (Nat.ne_zero_of_lt alsoEnough)
        with ⟨others, rfl⟩
      rw [repeated, repeated]
      cases stepped : step cursor with
      | error error middle =>
          rw [bind_eq_of_error stepped, bind_eq_of_error stepped]
      | ok found middle =>
          rw [bind_eq_of_ok stepped, bind_eq_of_ok stepped]
          cases found with
          | none =>
              rfl
          | some result =>
              have consumed := advancing cursor result middle stepped
              have same :
                  repeated step rounds middle = repeated step others middle :=
                ih (by omega) (by omega)
              simp only [bind, EStateM.bind, same]

/-- A loop goes on where its first round has consumed. -/
theorem many_of_some
    {step : Parser (Option α)}
    {result : α}
    {results : List α}
    {middle : Cursor}
    (advancing : Advancing step)
    (stepped : step cursor = .ok (some result) middle)
    (others : many step middle = .ok results after) :
    many step cursor = .ok (result :: results) after := by
  have consumed := advancing cursor result middle stepped
  have same : repeated step cursor.rest.length middle = many step middle :=
    repeated_eq_repeated advancing consumed (Nat.lt_succ_self _)
  rw [others] at same
  calc
    many step cursor =
        (repeated step cursor.rest.length >>= fun results =>
          pure (result :: results)) middle :=
      bind_eq_of_ok stepped _
    _ = .ok (result :: results) after := bind_eq_of_ok same _

/--
Every round of a loop consumes, any number of rounds beyond the characters
ahead gives what the loop gives, and the loop does not run out of them.
-/
structure Winding (step : Parser (Option α)) : Prop where
  advancing : Advancing step
  enough : ∀ rounds (cursor : Cursor), cursor.rest.length < rounds →
    repeated step rounds cursor = many step cursor
  refuses : Refuses (many step)

theorem winding_of_advancing
    {step : Parser (Option α)}
    (advancing : Advancing step)
    (refuses : Refuses (many step)) :
    Winding step where
  advancing := advancing
  enough := by
    intro rounds cursor enough
    exact repeated_eq_repeated advancing enough (Nat.lt_succ_self _)
  refuses := refuses

/-- The items of a list are read in a loop that consumes a comma each round. -/
theorem winding_commaItem
    {item : Parser α}
    {good : α → Prop}
    {spelling : α → List Lexeme}
    (forward : Forward item)
    (reads : ReadsAs item good spelling)
    (viable : Viable item good spelling) :
    Winding (commaItem item) :=
  winding_of_advancing (advancing_commaItem forward)
    (afterCommas_viable forward reads viable).refuses

theorem winding_names : Winding (commaItem (ident "identifier")) :=
  winding_commaItem forwardness.holds_name (fun _ _ _ => reads_of_ident)
    (ident_viable "identifier")

/-! ## Characters consumed one by one -/

/-- The next character, which is consumed if it belongs to a class. -/
def consumeIf (class? : Char → Bool) : Parser (Option Char) := do
  if (← peek).any class? then
    return some (← consume)
  else
    return none

/-- Characters of a class consumed one by one, as long as one comes next. -/
def consumeWhile (class? : Char → Bool) : Parser (List Char) :=
  many (consumeIf class?)

theorem consumeIf_cons
    (class? : Char → Bool)
    (location : Location)
    (char : Char)
    (rest : List Char) :
    consumeIf class? ⟨location, char :: rest⟩ =
      if class? char then
        .ok (some char) ⟨location.advance char, rest⟩
      else
        .ok none ⟨location, char :: rest⟩ := by
  have unfolded :
      consumeIf class? ⟨location, char :: rest⟩ =
        (if class? char then return some (← consume) else return none :
          Parser (Option Char)) ⟨location, char :: rest⟩ := rfl
  rw [unfolded]
  split
  · rfl
  · rfl

theorem advancing_consumeIf (class? : Char → Bool) :
    Advancing (consumeIf class?) := by
  rintro ⟨location, rest⟩ result after read
  cases rest with
  | nil =>
      cases read
  | cons char rest =>
      rw [consumeIf_cons] at read
      split at read
      · cases read
        exact Nat.lt_succ_self _
      · cases read

/-- Consuming one by one passes the run that comes next, and no more. -/
theorem consumeWhile_eq_run (class? : Char → Bool) :
    consumeWhile class? = run class? := by
  funext ⟨location, rest⟩
  induction rest generalizing location with
  | nil =>
      rfl
  | cons char rest ih =>
      have stepped := consumeIf_cons class? location char rest
      rw [consumeWhile] at ih ⊢
      split_ifs at stepped with inside
      · rw [many_of_some (advancing_consumeIf class?) stepped (ih _)]
        simp [run, Cursor.dropWhile, inside]
      · refine (repeated_of_none stepped _).trans ?_
        simp [run, Cursor.dropWhile, inside]

theorem discard_consumeWhile_isBlank :
    discard (consumeWhile isBlank) = skipBlanks := by
  rw [consumeWhile_eq_run]
  rfl

/-! ## Readers at a place in a source -/

/-- How a reader ends that begins at a place in a source. -/
inductive Ends (source : List Char) (place : Location) :
    EStateM.Result SyntaxError Cursor α → Prop where
  | consumed
      {value : α} {after : Cursor}
      (forward : place.offset < after.location.offset)
      (inside : after.location.offset ≤ source.length)
      (ahead : after.rest = source.drop after.location.offset)
      (solid : ∃ index char,
        place.offset ≤ index ∧ index < after.location.offset ∧
          source[index]? = some char ∧ isBlank char = false) :
      Ends source place (.ok value after)
  | refused
      {error : SyntaxError} {after : Cursor}
      (refusal : error.fault.IsRefusal) :
      Ends source place (.error error after)

theorem ends_of_consumes
    {reader : Parser α}
    (consumes : Consumes reader)
    (refuses : Refuses reader)
    (source : List Char)
    (place : Location) :
    Ends source place (reader ⟨place, source.drop place.offset⟩) := by
  cases outcome : reader ⟨place, source.drop place.offset⟩ with
  | error error after =>
      exact .refused (refuses _ error after outcome)
  | ok value after =>
      rcases consumes _ value after outcome with
        ⟨text, passed, char, member, solid⟩
      have counted := passed.offset
      have split : source.drop place.offset = text ++ after.rest := passed.rest
      have lengths := congrArg List.length split
      have positive := List.length_pos_of_mem member
      rw [List.length_drop, List.length_append] at lengths
      dsimp only at counted
      refine .consumed (by omega) (by omega) ?_ ?_
      · rw [counted, ← List.drop_drop, split, List.drop_left]
      · rcases List.mem_iff_getElem?.1 member with ⟨index, listed⟩
        have inside := (List.getElem?_eq_some_iff.1 listed).1
        refine ⟨place.offset + index, char, by omega, by omega, ?_, solid⟩
        rw [← List.getElem?_drop, split, List.getElem?_append_left inside,
          listed]

/--
Wherever in a source a reader begins, it has consumed something solid and
stands further on in the source, or it refuses what it finds; a function ends
with the source.  No loop of the readers runs out of rounds, and consuming
runs and blanks one by one is what the readers do.
-/
theorem readers_consume_or_refuse
    (source : String)
    (place : Location)
    (prec : Int) :
    let chars := source.toList
    let cursor : Cursor := ⟨place, chars.drop place.offset⟩
    (Ends chars place (typeRef cursor) ∧ Ends chars place (atom cursor) ∧
      Ends chars place (expr prec cursor) ∧ Ends chars place (decl cursor) ∧
      Ends chars place (stmt cursor) ∧ Ends chars place (function cursor) ∧
      ∀ tree after, function cursor = .ok tree after →
        after.location.offset = chars.length) ∧
    (Winding (commaItem (ident "identifier")) ∧ Winding (commaItem decl) ∧
      Winding (commaItem typeRef) ∧ Winding (commaItem atom) ∧
      Winding bodyStep) ∧
    (∀ class?, consumeWhile class? = run class?) ∧
    discard (consumeWhile isBlank) = skipBlanks := by
  intro chars cursor
  have functionEnds :=
    ends_of_consumes consumes_function refuses_function chars place
  refine ⟨⟨?_, ?_, ?_, ?_, ?_, functionEnds, ?_⟩, ⟨winding_names, ?_, ?_, ?_, ?_⟩,
    consumeWhile_eq_run, discard_consumeWhile_isBlank⟩
  · exact ends_of_consumes consumes_typeRef typeRef_viable.refuses chars place
  · exact ends_of_consumes consumes_atom atom_viable.refuses chars place
  · exact ends_of_consumes (consumes_expr prec) (refuses_expr prec) chars place
  · exact ends_of_consumes consumes_decl decl_viable.refuses chars place
  · exact ends_of_consumes consumes_stmt refuses_stmt chars place
  · intro tree after read
    have finished := (reads_of_function read).2.2
    rw [read] at functionEnds
    cases functionEnds with
    | consumed _ inside ahead _ =>
        rw [finished] at ahead
        have behind := List.drop_eq_nil_iff.1 ahead.symm
        exact Nat.le_antisymm inside behind
  · exact winding_commaItem forwardness.holds_decl decl_readsAs decl_viable
  · exact winding_commaItem forwardness.holds_typeRef typeRef_readsAs
      typeRef_viable
  · exact winding_commaItem forwardness.holds_atom atom_readsAs atom_viable
  · exact winding_of_advancing advancing_bodyStep refuses_body

end Parser

end Sprig
