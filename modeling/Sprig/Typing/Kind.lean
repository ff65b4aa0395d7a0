/-!
# Kinds

A kind is what is known of the type of a value, by its name.  Exactly the name
`unknown` stands for nothing being known; every other kind is concrete.
-/

namespace Sprig

/-- What is known of a type. -/
structure Kind where
  name : String
  deriving DecidableEq, Repr, Inhabited

namespace Kind

/-- The kind of whole numbers. -/
def int : Kind :=
  ⟨"int"⟩

/-- The kind of a value about which nothing is known yet. -/
def unknown : Kind :=
  ⟨"unknown"⟩

/-- Whether the kind settles a type. -/
def isConcrete (kind : Kind) : Bool :=
  kind != unknown

/-- The kind that a source may name. -/
def ofName? (name : String) : Option Kind :=
  if name = int.name then some int else none

@[simp]
theorem isConcrete_eq_false_iff {kind : Kind} :
    kind.isConcrete = false ↔ kind = unknown := by
  simp [isConcrete]

theorem eq_unknown_of_not_isConcrete
    {kind : Kind}
    (notConcrete : ¬ kind.isConcrete = true) :
    kind = unknown := by
  rwa [Bool.not_eq_true, isConcrete_eq_false_iff] at notConcrete

end Kind

end Sprig
