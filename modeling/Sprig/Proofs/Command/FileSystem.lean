import Sprig.Command.FileSystem

/-!
# What a write changes

Writing at a path puts one file into place and touches nothing else.  The
directories on the way stay directories, so that the path leads to the same
place afterwards, and reading it gives back what has been written.
-/

namespace Sprig.Command.FileSystem

variable {system : FileSystem}
variable {place inner other : Place}
variable {content : ByteArray}

/-! ## Entries -/

variable {start : Place}
variable {name : String}
variable {path : Path}

/-- What a write leaves: one file put into place, which can be read back. -/
structure Written
    (system : FileSystem)
    (path : Path)
    (content : ByteArray)
    (after : FileSystem) : Prop where
  reads : after.read path = .ok content
  others : ∃ place, system.target path = .ok place ∧
    ∀ other ≠ place, after.entry? other = system.entry? other
  directories : after.directories = system.directories
  working : after.working = system.working

end Sprig.Command.FileSystem
