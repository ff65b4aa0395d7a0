import Sprig.Parser.Cursor

/-!
# Reading tokens

A parser moves a cursor and may fail, in which case the cursor stays where
the fault was found.  There is no backtracking: a test that fails has passed
blanks only, so another test may follow it.

A loop has one round more than there are characters ahead of it.  Each of its
steps must consume a character or end it, and then the rounds suffice.
-/

namespace Sprig

open Sprig.Text

/-- Actions that move a cursor over a text. -/
abbrev Parser := EStateM SyntaxError Cursor

namespace Parser

/-- The next character, if there is one. -/
def peek : Parser (Option Char) := do
  return (← get).next?

/-- The next character, which the cursor passes. -/
def consume : Parser Char := fun cursor =>
  match cursor.rest with
  | [] => .error ⟨.pastEnd, cursor.pos⟩ cursor
  | char :: rest => .ok char ⟨cursor.location.advance char, rest⟩

/-- Blanks are passed. -/
def skipBlanks : Parser Unit :=
  modify Cursor.skipBlanks

/-- The position of the next token. -/
def here : Parser Pos := do
  skipBlanks
  return (← get).pos

/-- Whether nothing but blanks is left. -/
def atEnd : Parser Bool := do
  skipBlanks
  return (← get).rest.isEmpty

/-- The longest run of characters of a class, which the cursor passes. -/
def run (class? : Char → Bool) : Parser (List Char) := fun cursor =>
  .ok (cursor.rest.takeWhile class?) (cursor.dropWhile class?)

/-- Whether a symbol comes next. -/
def atSymbol (symbol : String) : Parser Bool := do
  skipBlanks
  return (← get).atSymbol symbol.toList

/-- Whether a symbol comes next; if so, it is consumed. -/
def accept (symbol : String) : Parser Bool := do
  if ← atSymbol symbol then
    symbol.toList.forM fun _ => discard consume
    return true
  else
    return false

/-- A name, if one comes next. -/
def ident? : Parser (Option String) := do
  skipBlanks
  if (← peek).any isLetter then
    let name ← run isAlphanumeric
    return some (String.ofList name)
  else
    return none

/-- A number, if one comes next. -/
def numeral? : Parser (Option String) := do
  skipBlanks
  let text ← run isNumeric
  if text.isEmpty then
    return none
  else
    return some (String.ofList text)

/-- The fault that something else is needed where the next token stands. -/
def expecting (what : String) : Parser SyntaxError := do
  skipBlanks
  let cursor ← get
  return ⟨.expected what cursor.lookahead, cursor.pos⟩

/-- Failure at the next token. -/
def failExpecting {α : Type} (what : String) : Parser α := do
  throw (← expecting what)

/-- A symbol that must come next. -/
def require (symbol : String) : Parser Unit := do
  if ← accept symbol then
    return ()
  else
    failExpecting ("'" ++ symbol ++ "'")

/-- A name that must come next. -/
def ident (what : String) : Parser String := do
  match ← ident? with
  | some name => return name
  | none => failExpecting what

/-- The results of a step, repeated for as long as there are any. -/
def repeated
    {α : Type}
    (step : Parser (Option α)) :
    (rounds : Nat) → Parser (List α)
  | 0 => fun cursor => .error ⟨.stalled, cursor.pos⟩ cursor
  | rounds + 1 => do
    match ← step with
    | none => return []
    | some result =>
      let results ← repeated step rounds
      return result :: results

/-- A step repeated with enough rounds for every character ahead. -/
def many {α : Type} (step : Parser (Option α)) : Parser (List α) := do
  repeated step ((← get).rest.length + 1)

/-- Items that each follow a comma. -/
def afterCommas {α : Type} (item : Parser α) : Parser (List α) :=
  many do
    if ← accept "," then
      return some (← item)
    else
      return none

/-! ## What the token tests do to the cursor -/

theorem here_eq (cursor : Cursor) :
    here cursor = .ok cursor.skipBlanks.pos cursor.skipBlanks := rfl

theorem atEnd_eq (cursor : Cursor) :
    atEnd cursor =
      .ok cursor.skipBlanks.rest.isEmpty cursor.skipBlanks := rfl

theorem atSymbol_eq (symbol : String) (cursor : Cursor) :
    atSymbol symbol cursor =
      .ok (cursor.skipBlanks.atSymbol symbol.toList) cursor.skipBlanks := rfl

theorem expecting_eq (what : String) (cursor : Cursor) :
    expecting what cursor =
      .ok
        ⟨.expected what cursor.skipBlanks.lookahead, cursor.skipBlanks.pos⟩
        cursor.skipBlanks := rfl

/-- As many characters are consumed as a list has elements. -/
private theorem forM_consume
    {symbol : List Char}
    {cursor : Cursor}
    (fits : symbol.length ≤ cursor.rest.length) :
    (symbol.forM fun _ => discard consume) cursor =
      (.ok () (cursor.drop symbol.length) :
        EStateM.Result SyntaxError Cursor PUnit) := by
  induction symbol generalizing cursor with
  | nil => rfl
  | cons char symbol ih =>
    obtain ⟨location, rest⟩ := cursor
    cases rest with
    | nil => simp at fits
    | cons next rest =>
      have fewer : symbol.length ≤ rest.length := by simpa using fits
      exact @ih ⟨location.advance next, rest⟩ fewer

/-- A symbol is consumed whole or not at all. -/
theorem accept_eq (symbol : String) (cursor : Cursor) :
    accept symbol cursor =
      if cursor.skipBlanks.atSymbol symbol.toList then
        .ok true (cursor.skipBlanks.drop symbol.toList.length)
      else
        .ok false cursor.skipBlanks := by
  simp only [accept, bind, EStateM.bind, atSymbol_eq]
  split
  next found =>
    have consumed := forM_consume (Cursor.length_le_of_atSymbol found)
    simp only [EStateM.bind, consumed]
    rfl
  next => rfl

/-- A name is the longest run of word characters that begins with a letter. -/
theorem ident?_eq (cursor : Cursor) :
    ident? cursor =
      if cursor.skipBlanks.next?.any isLetter then
        .ok
          (some (String.ofList
            (cursor.skipBlanks.rest.takeWhile isAlphanumeric)))
          (cursor.skipBlanks.dropWhile isAlphanumeric)
      else
        .ok none cursor.skipBlanks := by
  have unfolded :
      ident? cursor =
        (if cursor.skipBlanks.next?.any isLetter then
          return some (String.ofList (← run isAlphanumeric))
        else
          return none : Parser (Option String)) cursor.skipBlanks := rfl
  rw [unfolded]
  split <;> rfl

/-- A number is the longest run of numeric characters that is not empty. -/
theorem numeral?_eq (cursor : Cursor) :
    numeral? cursor =
      if (cursor.skipBlanks.rest.takeWhile isNumeric).isEmpty then
        .ok none (cursor.skipBlanks.dropWhile isNumeric)
      else
        .ok
          (some (String.ofList (cursor.skipBlanks.rest.takeWhile isNumeric)))
          (cursor.skipBlanks.dropWhile isNumeric) := by
  have unfolded :
      numeral? cursor =
        (if (cursor.skipBlanks.rest.takeWhile isNumeric).isEmpty then
          return none
        else
          return some
            (String.ofList (cursor.skipBlanks.rest.takeWhile isNumeric)) :
          Parser (Option String)) (cursor.skipBlanks.dropWhile isNumeric) :=
    rfl
  rw [unfolded]
  split <;> rfl

end Parser

end Sprig
