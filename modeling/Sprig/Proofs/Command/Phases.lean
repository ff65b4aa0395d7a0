import Sprig.Command.Run

/-!
# What the phases come to

A source is refused or comes to a JSON value.  `Rejects` and `Yields` say
which, in terms of reading the source and of checking the function in it: it
is refused for the error of the one or, if it is to be checked, of the other,
and the value holds the tree and then the kinds of its names.  One of the two
holds of every source, and what the phases give is what it says.
-/

namespace Sprig.Command

/-- The diagnostic that a source is refused with. -/
inductive Rejects (options : Options) (source : String) :
    Diagnostic → Prop where
  | malformed
      {error : SyntaxError}
      (fails : parse source = .error error) :
      Rejects options source (.malformed error)
  | illTyped
      {function : Function} {error : TypeError}
      (asked : options.stopAt = .check)
      (parsed : parse source = .ok function)
      (fails : function.check options.allowUnresolved = .error error) :
      Rejects options source (.illTyped error)

/-- The value that a source comes to: its tree, or its tree and its kinds. -/
inductive Yields (options : Options) (source : String) : Json → Prop where
  | tree
      {function : Function}
      (asked : options.stopAt = .parse)
      (parsed : parse source = .ok function) :
      Yields options source function.toJson
  | kinds
      {function : Function} {checked : Checked}
      (asked : options.stopAt = .check)
      (parsed : parse source = .ok function)
      (sound : function.check options.allowUnresolved = .ok checked) :
      Yields options source
        (.obj [("ast", function.toJson), ("types", checked.toJson)])

variable {options : Options}
variable {source : String}
variable {diagnostic : Diagnostic}
variable {json : Json}

theorem rejects_or_yields (options : Options) (source : String) :
    (∃ diagnostic, Rejects options source diagnostic) ∨
      ∃ json, Yields options source json := by
  cases parsed : parse source with
  | error error =>
      exact .inl ⟨_, .malformed parsed⟩
  | ok function =>
      cases asked : options.stopAt with
      | parse =>
          exact .inr ⟨_, .tree asked parsed⟩
      | check =>
          cases checked : function.check options.allowUnresolved with
          | error error =>
              exact .inl ⟨_, .illTyped asked parsed checked⟩
          | ok checked' =>
              exact .inr ⟨_, .kinds asked parsed checked⟩

/-- A checked function is the one that was to be checked. -/
theorem function_of_check
    {function : Function}
    {allowUnresolved : Bool}
    {checked : Checked}
    (sound : function.check allowUnresolved = .ok checked) :
    checked.function = function := by
  rw [Function.check] at sound
  split at sound
  · cases sound
    rfl
  · cases sound

theorem process_of_rejects (rejects : Rejects options source diagnostic) :
    process options source = .error diagnostic := by
  cases rejects with
  | malformed fails =>
      cases asked : options.stopAt with
      | parse => simp only [process, asked, fails]
      | check => simp only [process, asked, check, fails]
  | illTyped asked parsed fails =>
      simp only [process, asked, check, parsed, fails]

theorem process_of_yields (yields : Yields options source json) :
    process options source = .ok json := by
  cases yields with
  | tree asked parsed =>
      simp only [process, asked, parsed]
  | kinds asked parsed sound =>
      simp only [process, asked, check, parsed, sound, function_of_check sound]

theorem process_eq_error_iff :
    process options source = .error diagnostic ↔
      Rejects options source diagnostic := by
  constructor
  · intro failed
    rcases rejects_or_yields options source with ⟨other, rejects⟩ | ⟨json, yields⟩
    · rw [process_of_rejects rejects] at failed
      cases failed
      exact rejects
    · rw [process_of_yields yields] at failed
      cases failed
  · exact process_of_rejects

end Sprig.Command
