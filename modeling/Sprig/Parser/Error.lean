import Sprig.Text.Position

/-!
# Faults of reading

A reader stops at the first token that does not fit.  Its fault says what
would have fitted and shows what stands there instead: a whole word, any
other single character, or the end of the text.

Two more faults are the reader's own.  Consuming a character where none is
left is one, and a loop that goes through more rounds than there are
characters is the other.
-/

namespace Sprig

/-- What stands where a token is looked for. -/
inductive Lookahead where
  | endOfInput
  | text (quoted : String)
  deriving DecidableEq, Repr

/-- What stands there, as a message shows it. -/
def Lookahead.describe : Lookahead → String
  | endOfInput => "end of input"
  | text quoted => "'" ++ quoted ++ "'"

/-- Why a text is no program. -/
inductive SyntaxFault where
  /-- Another token is needed here. -/
  | expected (what : String) (found : Lookahead)
  /-- A statement that begins like a call. -/
  | callStatement
  /-- A character is consumed where none is left. -/
  | pastEnd
  /-- A loop has no rounds left. -/
  | stalled
  deriving DecidableEq, Repr

/-- A fault with its position. -/
structure SyntaxError where
  fault : SyntaxFault
  pos : Pos
  deriving DecidableEq, Repr

/-- The class of a fault, as a diagnostic line names it. -/
def SyntaxFault.category : SyntaxFault → String
  | expected .. => "ParseError"
  | callStatement => "UnsupportedConstruct"
  | pastEnd => "PastEnd"
  | stalled => "Stalled"

/-- The wording of a fault. -/
def SyntaxFault.message : SyntaxFault → String
  | expected what found => "expected " ++ what ++ ", got " ++ found.describe
  | callStatement => "call statements are not supported"
  | pastEnd => "no character is left"
  | stalled => "a loop made no progress"

end Sprig
