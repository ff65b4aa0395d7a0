import Sprig.Parser.Grammar
import Sprig.Syntax.Json
import Sprig.Typing.Checked

/-!
# Programs

A source is read and then checked.  Whatever goes wrong first is the one
diagnostic, which takes a single line: where it is, what class it belongs to
and what it says.
-/

namespace Sprig

/-- What is wrong with a source. -/
inductive Diagnostic where
  | malformed (error : SyntaxError)
  | illTyped (error : TypeError)
  deriving DecidableEq, Repr

namespace Diagnostic

/-- Where it is. -/
def pos : Diagnostic → Pos
  | malformed error => error.pos
  | illTyped error => error.pos

/-- What class it belongs to. -/
def category : Diagnostic → String
  | malformed error => error.fault.category
  | illTyped error => error.fault.category

/-- What it says. -/
def message : Diagnostic → String
  | malformed error => error.fault.message
  | illTyped error => error.fault.message

/-- All of it in one line. -/
def line (diagnostic : Diagnostic) : String :=
  "error:" ++ toString diagnostic.pos.line ++ ":" ++
    toString diagnostic.pos.col ++ ": " ++ diagnostic.category ++ ": " ++
    diagnostic.message

end Diagnostic

/-- A source read and checked. -/
def check
    (source : String)
    (allowUnresolved : Bool) :
    Except Diagnostic Checked :=
  match parse source with
  | .error error => .error (.malformed error)
  | .ok function =>
    match function.check allowUnresolved with
    | .error error => .error (.illTyped error)
    | .ok checked => .ok checked

end Sprig
