import Sprig.Text.Quoted

/-!
# Faults of opening a file

A file that is not there has a message of its own.  Every other fault shows
the number and the text of the system and the path between quotes.
-/

namespace Sprig.Command

/-- Why a file cannot be opened. -/
inductive FileError where
  | missing
  | notDirectory
  | isDirectory
  | nameTooLong
  | other (number : Nat) (text : String)
  deriving DecidableEq, Repr

namespace FileError

/-- The number by which the system knows the fault. -/
def number : FileError → Nat
  | missing => 2
  | notDirectory => 20
  | isDirectory => 21
  | nameTooLong => 36
  | other number _ => number

/-- The text by which the system knows the fault. -/
def text : FileError → String
  | missing => "No such file or directory"
  | notDirectory => "Not a directory"
  | isDirectory => "Is a directory"
  | nameTooLong => "File name too long"
  | other _ text => text

/-- What is said when a source file cannot be opened. -/
def readMessage (path : String) : FileError → String
  | missing => "error: " ++ path ++ ": " ++ missing.text
  | error =>
    "error: " ++ path ++ ": [Errno " ++ toString error.number ++ "] " ++
      error.text ++ ": " ++ Text.quoted path

/-- What is said when an output file cannot be opened. -/
def writeMessage (path : String) : String :=
  "error: cannot write '" ++ path ++ "'"

end FileError

end Sprig.Command
