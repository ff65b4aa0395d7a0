import Sprig.Command.FileSystem
import Sprig.Command.Options
import Sprig.Json.Printer
import Sprig.Program

/-!
# Running the command

A run reads its source, takes it through the phases that are asked for and
writes the outcome as JSON with a final line feed.  It ends with a report: the
exit code and what is printed on either stream.  The code is 0 for success, 1
for anything wrong with the source or the files and 2 for refused arguments.

What the run needs from its surroundings is a `Host`.  `FileSystem.host` is
one whose surroundings are a value, so that a run is a function from file
system and input to report and file system.

A host tells by a value that a file cannot be opened, and the run reports it.
A text that is no path does not get as far as that: the host raises an error
of its own, nothing in a run handles it, and the run ends without a report.
-/

namespace Sprig.Command

/-- What a run leaves on its streams. -/
structure Report where
  exitCode : Nat
  stdout : String
  stderr : String
  deriving DecidableEq, Repr

/-- What a run needs from its surroundings. -/
structure Host (m : Type → Type) where
  readInput : m ByteArray
  readFile : String → m (Except FileError ByteArray)
  writeFile : String → ByteArray → m (Except FileError Unit)

/-- Success, with a text on the first stream. -/
def Report.success (stdout : String) : Report :=
  ⟨0, stdout, ""⟩

/-- Failure, with one line on the second stream. -/
def Report.failure (exitCode : Nat) (line : String) : Report :=
  ⟨exitCode, "", line ++ "\n"⟩

/-- The report of a run that the arguments end. -/
def Stop.report : Stop → Report
  | help => .success usage
  | misuse error => .failure 2 error.message

/-- The outcome of the phases that are asked for. -/
def process (options : Options) (source : String) : Except Diagnostic Json :=
  match options.stopAt with
  | .parse =>
    match Sprig.parse source with
    | .error error => .error (.malformed error)
    | .ok function => .ok function.toJson
  | .check =>
    match Sprig.check source options.allowUnresolved with
    | .error diagnostic => .error diagnostic
    | .ok checked =>
      .ok
        (.obj
          [ ("ast", checked.function.toJson),
            ("types", checked.toJson) ])

/-- What is written when all goes well: the JSON text and a line feed. -/
def outcome (options : Options) (bytes : ByteArray) : Except Report String :=
  match String.fromUTF8? bytes with
  | none => .error (.failure 1 "error: invalid utf-8 in input")
  | some source =>
    match process options source with
    | .error diagnostic => .error (.failure 1 diagnostic.line)
    | .ok json => .ok (json.render ++ "\n")

variable {m : Type → Type} [Monad m]

/-- The bytes of the source. -/
def sourceBytes (host : Host m) : Option String → m (Except Report ByteArray)
  | none => do
    let bytes ← host.readInput
    return .ok bytes
  | some path => do
    match ← host.readFile path with
    | .error error => return .error (.failure 1 (error.readMessage path))
    | .ok bytes => return .ok bytes

/-- A text printed, or written to the output file. -/
def deliver (host : Host m) (text : String) : Option String → m Report
  | none => return .success text
  | some path => do
    match ← host.writeFile path text.toUTF8 with
    | .error _ => return .failure 1 (FileError.writeMessage path)
    | .ok () => return .success ""

/-- A run with options. -/
def runWith (host : Host m) (options : Options) : m Report := do
  match ← sourceBytes host options.inputFile with
  | .error report => return report
  | .ok bytes =>
    match outcome options bytes with
    | .error report => return report
    | .ok text => deliver host text options.outputFile

/-- A run with arguments. -/
def run (host : Host m) (arguments : List String) : m Report :=
  match Options.ofArguments arguments with
  | .error stop => return stop.report
  | .ok options => runWith host options

/-- Surroundings that are a file system and an input. -/
def FileSystem.host (input : ByteArray) :
    Host (EStateM PathError FileSystem) where
  readInput := return input
  readFile text := do
    let path ← MonadExcept.ofExcept (Path.ofString text)
    return (← get).read path
  writeFile text content := do
    let path ← MonadExcept.ofExcept (Path.ofString text)
    match (← get).write path content with
    | .error error => return .error error
    | .ok system =>
      set system
      return .ok ()

end Sprig.Command
