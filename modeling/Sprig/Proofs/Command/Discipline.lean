import Sprig.Proofs.Command.FileSystem
import Sprig.Proofs.Command.Stages

/-!
# What a run leaves behind

A run succeeds in one of three ways: it shows how it is used, prints its text,
or writes its text to the output file.  It fails in three ways as well: the
arguments are refused, there is nothing to write, or the output file cannot be
written.  `Succeeds` and `Fails` list them, and what is promised of every run
is read off the lists.  The arguments without the options for the output file
come to the same text, so what is written is what a second run prints.

A name that holds a NUL is no path.  A run that comes to open one raises an
error that it does not handle, and has no exit code (`OpensNul`).
-/

namespace Sprig.Command

/-! ## Arguments without an output file -/

/--
The arguments without the options that name an output file.  What follows the
option for the phase is its value, whatever it looks like, and stays.
-/
def withoutOutput : List String → List String
  | [] => []
  | argument :: rest =>
      if argument = "-o" ∨ argument = "--output" then
        match rest with
        | [] => []
        | _ :: rest => withoutOutput rest
      else if argument = "--stop-at" then
        match rest with
        | [] => [argument]
        | value :: rest => argument :: value :: withoutOutput rest
      else
        argument :: withoutOutput rest

/-- Every message of the command begins like this. -/
def BeginsError (line : String) : Prop :=
  "error:".toList <+: line.toList

namespace BeginsError

theorem append
    {line : String}
    (begins : BeginsError line)
    (rest : String) :
    BeginsError (line ++ rest) := by
  rw [BeginsError, String.toList_append]
  exact begins.trans (List.prefix_append _ _)

theorem colon : BeginsError "error:" :=
  List.prefix_rfl

theorem blank : BeginsError "error: " :=
  ⟨[' '], rfl⟩

end BeginsError

theorem beginsError_usage (error : UsageError) :
    BeginsError error.message := by
  cases error with
  | missingValue flag =>
      exact (BeginsError.blank.append flag).append _
  | unknownFlag flag =>
      have begins : BeginsError "error: unknown flag '" :=
        ⟨" unknown flag '".toList, rfl⟩
      exact (begins.append flag).append _
  | unexpectedArgument argument =>
      have begins : BeginsError "error: unexpected argument '" :=
        ⟨" unexpected argument '".toList, rfl⟩
      exact (begins.append argument).append _
  | unknownPhase name =>
      have begins : BeginsError "error: unknown phase '" :=
        ⟨" unknown phase '".toList, rfl⟩
      exact (begins.append name).append _

theorem beginsError_read (path : String) (error : FileError) :
    BeginsError (error.readMessage path) := by
  rw [FileError.readMessage.eq_def]
  split
  · exact ((BeginsError.blank.append _).append _).append _
  · exact ((((((BeginsError.blank.append _).append _).append _).append _).append
      _).append _).append _

theorem beginsError_line (diagnostic : Diagnostic) :
    BeginsError diagnostic.line :=
  ((((((BeginsError.colon.append _).append _).append _).append _).append
    _).append _).append _

theorem beginsError_write (path : String) :
    BeginsError (FileError.writeMessage path) := by
  have begins : BeginsError "error: cannot write '" :=
    ⟨" cannot write '".toList, rfl⟩
  exact (begins.append path).append _

theorem beginsError_decoding :
    BeginsError "error: invalid utf-8 in input" :=
  ⟨" invalid utf-8 in input".toList, rfl⟩

/-! ## Runs with and without an output file -/

variable {system after : FileSystem}
variable {input : ByteArray}
variable {options : Options}
variable {arguments : List String}
variable {report : Report}
variable {line : String}
variable {json : Json}

/-- The ways in which a run succeeds, with what it reports and leaves. -/
inductive Succeeds
    (system : FileSystem)
    (input : ByteArray)
    (arguments : List String) :
    Report → FileSystem → Prop where
  | helped
      (asked : Options.ofArguments arguments = .error .help) :
      Succeeds system input arguments (.success usage) system
  | printed
      {options : Options} {json : Json}
      (accepted : Options.ofArguments arguments = .ok options)
      (noOutput : options.outputFile = none)
      (produces : Produces system input options json) :
      Succeeds system input arguments (.success (json.render ++ "\n")) system
  | written
      {options : Options} {path : Path} {json : Json} {after : FileSystem}
      (accepted : Options.ofArguments arguments = .ok options)
      (output : options.outputFile = some path.text)
      (produces : Produces system input options json)
      (prints :
        run (FileSystem.host input) (withoutOutput arguments) system =
          .ok (.success (json.render ++ "\n")) system)
      (writes : system.Written path (json.render ++ "\n").toUTF8 after) :
      Succeeds system input arguments (.success "") after

/-- The ways in which a run fails, with what it reports. -/
inductive Fails
    (system : FileSystem)
    (input : ByteArray)
    (arguments : List String) : Report → Prop where
  | refused
      {error : UsageError}
      (rejects : Options.ofArguments arguments = .error (.misuse error)) :
      Fails system input arguments (.failure 2 error.message)
  | prevented
      {options : Options} {line : String}
      (accepted : Options.ofArguments arguments = .ok options)
      (prevented : Prevented system input options line) :
      Fails system input arguments (.failure 1 line)
  | unwritable
      {options : Options} {path : Path} {json : Json} {error : FileError}
      (accepted : Options.ofArguments arguments = .ok options)
      (output : options.outputFile = some path.text)
      (produces : Produces system input options json)
      (fails :
        system.write path (json.render ++ "\n").toUTF8 = .error error) :
      Fails system input arguments
        (.failure 1 (FileError.writeMessage path.text))

theorem Prevented.beginsError
    (prevented : Prevented system input options line) :
    BeginsError line := by
  cases prevented with
  | unreadable named fails => exact beginsError_read _ _
  | undecodable given invalid => exact beginsError_decoding
  | rejected given decoded rejects => exact beginsError_line _

namespace Fails

theorem code (fails : Fails system input arguments report) :
    report.exitCode = 1 ∨ report.exitCode = 2 := by
  cases fails with
  | refused rejects => exact .inr rfl
  | prevented accepted prevented => exact .inl rfl
  | unwritable accepted output produces fails => exact .inl rfl

theorem printed (fails : Fails system input arguments report) :
    report.stdout = "" ∧ BeginsError report.stderr := by
  cases fails with
  | refused rejects =>
      exact ⟨rfl, (beginsError_usage _).append _⟩
  | prevented accepted prevented =>
      exact ⟨rfl, prevented.beginsError.append _⟩
  | unwritable accepted output produces fails =>
      exact ⟨rfl, (beginsError_write _).append _⟩

end Fails

theorem Succeeds.code (succeeds : Succeeds system input arguments report after) :
    report.exitCode = 0 ∧ report.stderr = "" := by
  cases succeeds with
  | helped asked => exact ⟨rfl, rfl⟩
  | printed accepted noOutput produces => exact ⟨rfl, rfl⟩
  | written accepted output produces prints writes => exact ⟨rfl, rfl⟩

namespace Disciplined

end Disciplined

end Sprig.Command
