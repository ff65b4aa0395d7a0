import Sprig.Command.Run

/-!
# The command

The command as a program: its surroundings are those of the process.
-/

namespace Sprig.Command

/-- The fault behind a failure of the system. -/
def FileError.ofSystem : IO.Error → FileError
  | .noFileOrDirectory .. => .missing
  | .alreadyExists _ code text => ofCode code text
  | .otherError code text => ofCode code text
  | .resourceBusy code text => ofCode code text
  | .resourceVanished code text => ofCode code text
  | .unsupportedOperation code text => ofCode code text
  | .hardwareFault code text => ofCode code text
  | .unsatisfiedConstraints code text => ofCode code text
  | .illegalOperation code text => ofCode code text
  | .protocolError code text => ofCode code text
  | .timeExpired code text => ofCode code text
  | .interrupted _ code text => ofCode code text
  | .invalidArgument _ code text => ofCode code text
  | .permissionDenied _ code text => ofCode code text
  | .resourceExhausted _ code text => ofCode code text
  | .inappropriateType _ code text => ofCode code text
  | .noSuchThing _ code text => ofCode code text
  | .unexpectedEof => .other 5 "Input/output error"
  | .userError text => .other 5 text
where
  /-- A fault by its number, which some calls report as a negative one. -/
  ofCode (code : UInt32) (text : String) : FileError :=
    match (min code (0 - code)).toNat with
    | 2 => .missing
    | 20 => .notDirectory
    | 21 => .isDirectory
    | 36 => .nameTooLong
    | number => .other number text.capitalize

/-- An action of the system with its failure as a value. -/
def attempt {α : Type} (action : IO α) : IO (Except FileError α) := do
  try
    return .ok (← action)
  catch error =>
    return .error (FileError.ofSystem error)

/-- Everything that a stream still holds. -/
partial def drain (stream : IO.FS.Stream) (bytes : ByteArray) :
    IO ByteArray := do
  let chunk ← stream.read 65536
  if chunk.isEmpty then
    return bytes
  else
    drain stream (bytes ++ chunk)

/-- The path of a text, or an error that no one handles. -/
def pathOf (text : String) : IO Path :=
  match Path.ofString text with
  | .error error => throw (IO.userError error.message)
  | .ok path => return path

/-- The surroundings of a process. -/
def systemHost : Host IO where
  readInput := do
    drain (← IO.getStdin) .empty
  readFile text := do
    let path ← pathOf text
    attempt (IO.FS.readBinFile path.text)
  writeFile text content := do
    let path ← pathOf text
    attempt (IO.FS.writeBinFile path.text content)

end Sprig.Command

/-- Runs the command and prints its report. -/
def main (arguments : List String) : IO UInt32 := do
  let report ← Sprig.Command.run Sprig.Command.systemHost arguments
  IO.print report.stdout
  IO.eprint report.stderr
  return report.exitCode.toUInt32
