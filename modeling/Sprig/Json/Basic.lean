/-!
# Ordered JSON values

The values that the library writes: nulls, whole numbers of any size, texts,
arrays, and objects whose members keep the order in which they are listed.
-/

namespace Sprig

/-- A value to be written. -/
inductive Json where
  | null
  | int (value : Int)
  | str (text : String)
  | arr (items : List Json)
  | obj (members : List (String × Json))
  deriving Repr, Inhabited

end Sprig
