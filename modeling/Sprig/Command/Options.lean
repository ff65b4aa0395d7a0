/-!
# Command line arguments

Arguments are read from left to right.  An option that takes a value takes the
next argument whatever it looks like, later values replace earlier ones, and
an argument that does not begin with a dash names the source file.  The first
argument that does not fit ends the reading.  Only the name of the phase is
looked at when everything has been read, so a bad one may be replaced.
-/

namespace Sprig.Command

/-- How far a source is taken. -/
inductive Phase where
  | parse
  | check
  deriving DecidableEq, Repr, Inhabited

/-- What the command is asked to do. -/
structure Options where
  stopAt : Phase
  allowUnresolved : Bool
  inputFile : Option String
  outputFile : Option String
  deriving DecidableEq, Repr

/-- Why arguments are refused. -/
inductive UsageError where
  | missingValue (flag : String)
  | unknownFlag (flag : String)
  | unexpectedArgument (argument : String)
  | unknownPhase (name : String)
  deriving DecidableEq, Repr

/-- Why nothing is run. -/
inductive Stop where
  | help
  | misuse (error : UsageError)
  deriving DecidableEq, Repr

/-- The name of a phase. -/
def Phase.name : Phase → String
  | parse => "parse"
  | check => "check"

/-- The phase of a name. -/
def Phase.ofName? (name : String) : Option Phase :=
  if name = Phase.parse.name then
    some .parse
  else if name = Phase.check.name then
    some .check
  else
    none

/-- The wording of a refusal. -/
def UsageError.message : UsageError → String
  | missingValue flag => "error: " ++ flag ++ " requires an argument"
  | unknownFlag flag => "error: unknown flag '" ++ flag ++ "'"
  | unexpectedArgument argument =>
    "error: unexpected argument '" ++ argument ++ "'"
  | unknownPhase name => "error: unknown phase '" ++ name ++ "'"

/-- What has been read of the arguments; the phase is only a name yet. -/
structure Draft where
  phaseName : String
  allowUnresolved : Bool
  inputFile : Option String
  outputFile : Option String
  deriving DecidableEq, Repr

/-- What holds when no argument says otherwise. -/
def Draft.default : Draft :=
  ⟨Phase.check.name, false, none, none⟩

/-- Whether an argument has the form of a flag. -/
def isFlag (argument : String) : Bool :=
  argument.toList.head? = some '-'

/-- The arguments after a draft, up to the first that does not fit. -/
def scan (draft : Draft) : List String → Except Stop Draft
  | [] => .ok draft
  | argument :: rest =>
    if argument = "--help" ∨ argument = "-h" then
      .error .help
    else if argument = "--stop-at" then
      match rest with
      | [] => .error (.misuse (.missingValue argument))
      | value :: rest => scan { draft with phaseName := value } rest
    else if argument = "-o" ∨ argument = "--output" then
      match rest with
      | [] => .error (.misuse (.missingValue argument))
      | value :: rest => scan { draft with outputFile := some value } rest
    else if argument = "--allow-unresolved" then
      scan { draft with allowUnresolved := true } rest
    else if isFlag argument then
      .error (.misuse (.unknownFlag argument))
    else if draft.inputFile.isNone then
      scan { draft with inputFile := some argument } rest
    else
      .error (.misuse (.unexpectedArgument argument))

/-- A draft with a phase for its phase name. -/
def Draft.finish (draft : Draft) : Except Stop Options :=
  match Phase.ofName? draft.phaseName with
  | none => .error (.misuse (.unknownPhase draft.phaseName))
  | some stopAt =>
    .ok
      { stopAt
        allowUnresolved := draft.allowUnresolved
        inputFile := draft.inputFile
        outputFile := draft.outputFile }

/-- The options that a list of arguments asks for. -/
def Options.ofArguments (arguments : List String) : Except Stop Options :=
  match scan .default arguments with
  | .error stop => .error stop
  | .ok draft => draft.finish

/-- What the command says about itself. -/
def usage : String :=
  "sprig [OPTIONS] [FILE]\n" ++
  "\n" ++
  "Parse and type-check a Sprig function. Reads FILE, or stdin if omitted,\n" ++
  "and prints the result as JSON.\n" ++
  "\n" ++
  "Options:\n" ++
  "  --stop-at PHASE     Stop after phase: parse, check (default: check)\n" ++
  "  --allow-unresolved  Accept bindings whose type is never inferred\n" ++
  "  -o, --output FILE   Write output to FILE instead of stdout\n" ++
  "  --help              Show this help message\n"

end Sprig.Command
