import Sprig.Command.Run

/-!
# The grammar of arguments

Arguments are a sequence of groups: an option with its value, which may look
like anything, a flag that stands alone, or the name of a source.  Where no
group begins, or a second source would be named, reading ends with a report.
`Recognised` tells the outcome of reading from the groups alone: by the last
values if all arguments are groups, and otherwise by what stands behind the
groups.  A bad phase counts only when nothing else is left.

A draft is what the groups before have added to it.  `scan_group` says so for
one group and `scan_groups` for all of them, and what stands behind them is
looked at with the draft that they leave.
-/

namespace Sprig.Command

/-! ## Groups -/

/-- An option with its value, a flag on its own, or the name of a source. -/
inductive Group where
  | stopAt (name : String)
  | output
      (option : String)
      (isOutput : option = "-o" ∨ option = "--output")
      (path : String)
  | allowUnresolved
  | source (path : String) (notFlag : isFlag path = false)

namespace Group

/-- The arguments that a group consists of. -/
def arguments : Group → List String
  | stopAt name => ["--stop-at", name]
  | output option _ path => [option, path]
  | allowUnresolved => ["--allow-unresolved"]
  | source path _ => [path]

/-- The phase that a group names. -/
def phaseNames : Group → List String
  | stopAt name => [name]
  | _ => []

/-- The output file that a group names. -/
def outputPaths : Group → List String
  | output _ _ path => [path]
  | _ => []

/-- The source that a group names. -/
def sourcePaths : Group → List String
  | source path _ => [path]
  | _ => []

end Group

/-- The arguments that may begin with a dash. -/
def knownFlags : List String :=
  ["--help", "-h", "--stop-at", "-o", "--output", "--allow-unresolved"]

/-- The report on arguments that do not go on with a group. -/
inductive Deviates (sources : List String) : List String → Report → Prop where
  | help
      {flag : String} {rest : List String}
      (isHelp : flag = "--help" ∨ flag = "-h") :
      Deviates sources (flag :: rest) ⟨0, usage, ""⟩
  | missing
      {option : String}
      (takesValue :
        option = "--stop-at" ∨ option = "-o" ∨ option = "--output") :
      Deviates sources [option]
        ⟨2, "", "error: " ++ option ++ " requires an argument\n"⟩
  | unknown
      {flag : String} {rest : List String}
      (flagged : isFlag flag = true)
      (unlisted : flag ∉ knownFlags) :
      Deviates sources (flag :: rest)
        ⟨2, "", "error: unknown flag '" ++ flag ++ "'\n"⟩
  | second
      {path : String} {rest : List String}
      (notFlag : isFlag path = false)
      (named : sources ≠ []) :
      Deviates sources (path :: rest)
        ⟨2, "", "error: unexpected argument '" ++ path ++ "'\n"⟩

/-- The outcome of reading arguments, told by the groups that they begin with. -/
inductive Recognised (arguments : List String) :
    Except Report Options → Prop where
  | complete
      {groups : List Group} {options : Options}
      (splits : arguments = groups.flatMap Group.arguments)
      (single : (groups.flatMap Group.sourcePaths).length ≤ 1)
      (phase : (groups.flatMap Group.phaseNames).getLastD "check" =
        options.stopAt.name)
      (allow : options.allowUnresolved = true ↔
        Group.allowUnresolved ∈ groups)
      (input : options.inputFile = (groups.flatMap Group.sourcePaths).head?)
      (output : options.outputFile =
        (groups.flatMap Group.outputPaths).getLast?) :
      Recognised arguments (.ok options)
  | deviates
      {groups : List Group} {rest : List String} {report : Report}
      (splits : arguments = groups.flatMap Group.arguments ++ rest)
      (single : (groups.flatMap Group.sourcePaths).length ≤ 1)
      (deviates : Deviates (groups.flatMap Group.sourcePaths) rest report) :
      Recognised arguments (.error report)
  | unknownPhase
      {groups : List Group} {name : String}
      (splits : arguments = groups.flatMap Group.arguments)
      (single : (groups.flatMap Group.sourcePaths).length ≤ 1)
      (last : (groups.flatMap Group.phaseNames).getLastD "check" = name)
      (unknown : ∀ phase : Phase, phase.name ≠ name) :
      Recognised arguments
        (.error ⟨2, "", "error: unknown phase '" ++ name ++ "'\n"⟩)

/-! ## What groups add to a draft -/

/-- The draft after one more group. -/
def Draft.add (draft : Draft) : Group → Draft
  | .stopAt name => { draft with phaseName := name }
  | .output _ _ path => { draft with outputFile := some path }
  | .allowUnresolved => { draft with allowUnresolved := true }
  | .source path _ => { draft with inputFile := some path }

variable {draft : Draft}
variable {rest : List String}

theorem not_mem_knownFlags
    {argument : String}
    (notFlag : isFlag argument = false) :
    argument ∉ knownFlags := by
  intro listed
  have flagged : ∀ flag ∈ knownFlags, isFlag flag = true := by decide
  rw [flagged argument listed] at notFlag
  cases notFlag

/-- Any other argument is an unknown flag, or names a source. -/
theorem scan_of_not_mem
    {argument : String}
    (unlisted : argument ∉ knownFlags) :
    scan draft (argument :: rest) =
      if isFlag argument then
        .error (.misuse (.unknownFlag argument))
      else if draft.inputFile.isNone then
        scan { draft with inputFile := some argument } rest
      else
        .error (.misuse (.unexpectedArgument argument)) := by
  simp only [knownFlags, List.mem_cons, List.not_mem_nil, or_false,
    not_or] at unlisted
  rw [scan.eq_def]
  simp [unlisted]

/-- A group is read as a whole; a source only if none has been named. -/
theorem scan_group
    (group : Group)
    (fits : (draft.inputFile.toList ++ group.sourcePaths).length ≤ 1)
    (rest : List String) :
    scan draft (group.arguments ++ rest) = scan (draft.add group) rest := by
  cases group with
  | stopAt name =>
      simp [Group.arguments, scan, Draft.add]
  | output option isOutput path =>
      rcases isOutput with rfl | rfl
      · simp [Group.arguments, scan, Draft.add]
      · simp [Group.arguments, scan, Draft.add]
  | allowUnresolved =>
      rw [Group.arguments, List.singleton_append, scan.eq_def]
      simp [Draft.add]
  | source path notFlag =>
      have noInput : draft.inputFile = none := by
        cases named : draft.inputFile with
        | none =>
            rfl
        | some other =>
            simp [named, Group.sourcePaths] at fits
      rw [Group.arguments, List.singleton_append,
        scan_of_not_mem (not_mem_knownFlags notFlag), notFlag, noInput]
      rfl

theorem inputFile_add
    (group : Group)
    (fits : (draft.inputFile.toList ++ group.sourcePaths).length ≤ 1) :
    (draft.add group).inputFile.toList =
      draft.inputFile.toList ++ group.sourcePaths := by
  cases group with
  | source path notFlag =>
      cases named : draft.inputFile with
      | none =>
          rfl
      | some other =>
          simp [named, Group.sourcePaths] at fits
  | _ =>
      exact (List.append_nil _).symm

/-- What groups leave in a draft, given that they name one source at most. -/
theorem scan_groups
    {groups : List Group}
    (single : (draft.inputFile.toList ++
      groups.flatMap Group.sourcePaths).length ≤ 1)
    (rest : List String) :
    scan draft (groups.flatMap Group.arguments ++ rest) =
        scan (groups.foldl Draft.add draft) rest ∧
      (groups.foldl Draft.add draft).inputFile.toList =
        draft.inputFile.toList ++ groups.flatMap Group.sourcePaths := by
  induction groups generalizing draft with
  | nil =>
      exact ⟨rfl, (List.append_nil _).symm⟩
  | cons group groups ih =>
      rw [List.flatMap_cons, ← List.append_assoc] at single
      have fits : (draft.inputFile.toList ++ group.sourcePaths).length ≤ 1 := by
        rw [List.length_append] at single
        omega
      have added := inputFile_add group fits
      rw [← added] at single
      rcases ih single with ⟨scans, input⟩
      constructor
      · rw [List.flatMap_cons, List.append_assoc, scan_group group fits, scans]
        rfl
      · rw [List.flatMap_cons, ← List.append_assoc, ← added]
        exact input

theorem phaseName_foldl (groups : List Group) :
    (groups.foldl Draft.add draft).phaseName =
      (groups.flatMap Group.phaseNames).getLastD draft.phaseName := by
  induction groups generalizing draft with
  | nil =>
      rfl
  | cons group groups ih =>
      rw [List.foldl_cons, ih, List.flatMap_cons]
      cases group with
      | stopAt name =>
          rw [Group.phaseNames, List.singleton_append, List.getLastD_cons]
          rfl
      | _ =>
          rfl

theorem outputFile_foldl (groups : List Group) :
    (groups.foldl Draft.add draft).outputFile =
      (groups.flatMap Group.outputPaths).getLast?.or draft.outputFile := by
  induction groups generalizing draft with
  | nil =>
      rfl
  | cons group groups ih =>
      rw [List.foldl_cons, ih, List.flatMap_cons]
      cases group with
      | output option isOutput path =>
          rw [Group.outputPaths, List.singleton_append, List.getLast?_cons,
            Draft.add]
          cases (groups.flatMap Group.outputPaths).getLast? with
          | none =>
              rfl
          | some last =>
              rfl
      | _ =>
          rfl

theorem allowUnresolved_foldl (groups : List Group) :
    (groups.foldl Draft.add draft).allowUnresolved = true ↔
      draft.allowUnresolved = true ∨ Group.allowUnresolved ∈ groups := by
  induction groups generalizing draft with
  | nil =>
      simp
  | cons group groups ih =>
      rw [List.foldl_cons, ih, List.mem_cons]
      cases group with
      | allowUnresolved =>
          simp [Draft.add]
      | _ =>
          simp [Draft.add]

/-! ## Where the groups end -/

/-- A quoted argument ends the line of its report. -/
theorem report_quoted (begins argument : String) :
    Report.failure 2 (begins ++ argument ++ "'") =
      ⟨2, "", begins ++ argument ++ "'\n"⟩ := by
  rw [Report.failure, String.append_assoc]
  rfl

/-- What does not go on with a group is refused as its report says. -/
theorem scan_of_deviates
    {report : Report}
    (deviates : Deviates draft.inputFile.toList rest report) :
    (scan draft rest).mapError Stop.report = .error report := by
  cases deviates with
  | help isHelp =>
      rw [scan.eq_def]
      simp only [if_pos isHelp]
      rfl
  | missing takesValue =>
      rcases takesValue with rfl | rfl | rfl
      · rfl
      · rfl
      · rfl
  | @unknown flag rest flagged unlisted =>
      rw [scan_of_not_mem unlisted, if_pos flagged]
      exact congrArg Except.error (report_quoted _ flag)
  | @second path rest notFlag named =>
      have hasInput : draft.inputFile.isNone = false := by
        cases input : draft.inputFile with
        | none =>
            rw [input] at named
            exact (named rfl).elim
        | some other =>
            rfl
      rw [scan_of_not_mem (not_mem_knownFlags notFlag), notFlag, hasInput]
      exact congrArg Except.error (report_quoted _ path)

/-- Arguments go on with groups up to their end or to one that deviates. -/
def Splits (sources arguments : List String) : Prop :=
  ∃ (groups : List Group) (rest : List String),
    arguments = groups.flatMap Group.arguments ++ rest ∧
      (sources ++ groups.flatMap Group.sourcePaths).length ≤ 1 ∧
      (rest = [] ∨ ∃ report,
        Deviates (sources ++ groups.flatMap Group.sourcePaths) rest report)

theorem Splits.cons
    {sources : List String}
    (group : Group)
    (splits : Splits (sources ++ group.sourcePaths) rest) :
    Splits sources (group.arguments ++ rest) := by
  rcases splits with ⟨groups, rest, rfl, single, ends⟩
  rw [List.append_assoc, ← List.flatMap_cons] at single ends
  refine ⟨group :: groups, rest, ?_, single, ends⟩
  rw [List.flatMap_cons, List.append_assoc]

theorem Splits.stop
    {sources : List String}
    {report : Report}
    (single : sources.length ≤ 1)
    (deviates : Deviates sources rest report) :
    Splits sources rest := by
  refine ⟨[], rest, rfl, ?_, .inr ⟨report, ?_⟩⟩
  · rwa [List.flatMap_nil, List.append_nil]
  · rwa [List.flatMap_nil, List.append_nil]

/-- A group that names no source leaves the sources as they are. -/
theorem Splits.cons_of_nil
    {sources : List String}
    (group : Group)
    (noSource : group.sourcePaths = [])
    (splits : Splits sources rest) :
    Splits sources (group.arguments ++ rest) := by
  apply Splits.cons
  rwa [noSource, List.append_nil]

/-- The steps of the reading are groups, and its refusals deviate. -/
theorem splits_arguments
    (draft : Draft)
    (arguments : List String) :
    Splits draft.inputFile.toList arguments := by
  fun_induction scan draft arguments with
  | case1 draft =>
      refine ⟨[], [], rfl, ?_, .inl rfl⟩
      rw [List.flatMap_nil, List.append_nil]
      exact Option.length_toList_le
  | case2 draft argument rest help =>
      exact .stop Option.length_toList_le (.help help)
  | case3 draft notHelp =>
      exact .stop Option.length_toList_le (.missing (.inl rfl))
  | case4 draft value rest notHelp ih =>
      exact .cons_of_nil (.stopAt value) rfl ih
  | case5 draft argument notHelp notPhase isOutput =>
      exact .stop Option.length_toList_le (.missing (.inr isOutput))
  | case6 draft argument notHelp notPhase isOutput value rest ih =>
      exact .cons_of_nil (.output argument isOutput value) rfl ih
  | case7 draft rest notHelp notPhase notOutput ih =>
      exact .cons_of_nil .allowUnresolved rfl ih
  | case8 draft argument rest notHelp notPhase notOutput notAllow flagged =>
      have unlisted : argument ∉ knownFlags := by
        simp only [not_or] at notHelp notOutput
        simp [knownFlags, notHelp, notPhase, notOutput, notAllow]
      exact .stop Option.length_toList_le (.unknown flagged unlisted)
  | case9 draft argument rest notHelp notPhase notOutput notAllow notFlag
      noInput ih =>
      rw [Option.isNone_iff_eq_none.1 noInput]
      exact .cons (.source argument (Bool.not_eq_true _ ▸ notFlag)) ih
  | case10 draft argument rest notHelp notPhase notOutput notAllow notFlag
      hasInput =>
      refine .stop Option.length_toList_le
        (.second (Bool.not_eq_true _ ▸ notFlag) ?_)
      intro empty
      exact hasInput (Option.isNone_iff_eq_none.2 (Option.toList_eq_nil_iff.1 empty))

/-! ## The grammar -/

theorem Phase.ofName?_eq_none_iff {name : String} :
    ofName? name = none ↔ ∀ phase : Phase, phase.name ≠ name := by
  constructor
  · intro unknown phase named
    subst named
    cases phase with
    | parse =>
        cases unknown
    | check =>
        cases unknown
  · intro unknown
    rw [ofName?, if_neg (Ne.symm (unknown .parse)),
      if_neg (Ne.symm (unknown .check))]

theorem Phase.ofName?_eq_some_iff
    {name : String}
    {phase : Phase} :
    ofName? name = some phase ↔ phase.name = name := by
  constructor
  · intro named
    rw [ofName?] at named
    split at named
    next isParse =>
      cases named
      exact isParse.symm
    next =>
      split at named
      next isCheck =>
        cases named
        exact isCheck.symm
      next =>
        cases named
  · rintro rfl
    cases phase with
    | parse =>
        rfl
    | check =>
        rfl

/-- What reading the arguments comes to, as a report if nothing is to be run. -/
def readArguments (arguments : List String) : Except Report Options :=
  (Options.ofArguments arguments).mapError Stop.report

theorem readArguments_eq (arguments : List String) :
    readArguments arguments =
      ((scan .default arguments).mapError Stop.report).bind
        fun draft => draft.finish.mapError Stop.report := by
  rw [readArguments, Options.ofArguments]
  cases scan .default arguments with
  | error stop =>
      rfl
  | ok draft =>
      rfl

/-- The draft that groups leave, of which one at most names a source. -/
structure Leaves (groups : List Group) (draft : Draft) : Prop where
  scan_eq : ∀ rest,
    scan .default (groups.flatMap Group.arguments ++ rest) = scan draft rest
  phase : draft.phaseName = (groups.flatMap Group.phaseNames).getLastD "check"
  allow : draft.allowUnresolved = true ↔ Group.allowUnresolved ∈ groups
  input : draft.inputFile.toList = groups.flatMap Group.sourcePaths
  output : draft.outputFile = (groups.flatMap Group.outputPaths).getLast?

theorem exists_leaves
    {groups : List Group}
    (single : (groups.flatMap Group.sourcePaths).length ≤ 1) :
    ∃ draft, Leaves groups draft := by
  refine ⟨groups.foldl Draft.add .default, ?_, phaseName_foldl groups, ?_, ?_, ?_⟩
  · intro rest
    exact (@scan_groups .default groups single rest).1
  · rw [allowUnresolved_foldl]
    simp [Draft.default]
  · exact (@scan_groups .default groups single []).2
  · rw [outputFile_foldl, Draft.default, Option.or_none]

/-- The groups tell what the reading comes to. -/
theorem Recognised.readArguments_eq
    {arguments : List String}
    {outcome : Except Report Options}
    (recognised : Recognised arguments outcome) :
    readArguments arguments = outcome := by
  rw [Command.readArguments_eq]
  cases recognised with
  | @complete groups options splits single phase allow input output =>
      rcases exists_leaves single with ⟨draft, leaves⟩
      have scans := leaves.scan_eq []
      rw [List.append_nil, ← splits] at scans
      have named := Phase.ofName?_eq_some_iff.2 (leaves.phase.trans phase).symm
      have finished : draft.finish = .ok options := by
        have sameAllow : draft.allowUnresolved = options.allowUnresolved :=
          Bool.eq_iff_iff.2 (leaves.allow.trans allow.symm)
        have sameInput : draft.inputFile = options.inputFile := by
          rw [input, ← leaves.input, Option.head?_toList]
        have sameOutput := leaves.output.trans output.symm
        rw [Draft.finish, named, sameAllow, sameInput, sameOutput]
      rw [scans]
      exact congrArg (Except.mapError Stop.report) finished
  | @deviates groups rest report splits single deviates =>
      rcases exists_leaves single with ⟨draft, leaves⟩
      rw [← leaves.input] at deviates
      rw [splits, leaves.scan_eq, scan_of_deviates deviates]
      rfl
  | @unknownPhase groups name splits single last unknown =>
      rcases exists_leaves single with ⟨draft, leaves⟩
      have scans := leaves.scan_eq []
      rw [List.append_nil, ← splits] at scans
      have finished : draft.finish = .error (.misuse (.unknownPhase name)) := by
        rw [Draft.finish, leaves.phase, last,
          Phase.ofName?_eq_none_iff.2 unknown]
      rw [scans]
      refine (congrArg (Except.mapError Stop.report) finished).trans ?_
      exact congrArg Except.error (report_quoted _ name)

/-- Every list of arguments has an outcome that its groups tell. -/
theorem exists_recognised (arguments : List String) :
    ∃ outcome, Recognised arguments outcome := by
  rcases splits_arguments .default arguments with
    ⟨groups, rest, splits, single, rfl | ⟨report, deviates⟩⟩
  · rw [List.append_nil] at splits
    rcases exists_leaves single with ⟨draft, leaves⟩
    cases named : Phase.ofName? draft.phaseName with
    | none =>
        exact ⟨_, .unknownPhase splits single leaves.phase.symm
          (Phase.ofName?_eq_none_iff.1 named)⟩
    | some phase =>
        have last := Phase.ofName?_eq_some_iff.1 named
        let options : Options :=
          ⟨phase, draft.allowUnresolved, draft.inputFile, draft.outputFile⟩
        have input : options.inputFile =
            (groups.flatMap Group.sourcePaths).head? := by
          rw [← leaves.input, Option.head?_toList]
        exact ⟨.ok options, .complete splits single
          (leaves.phase.symm.trans last.symm) leaves.allow input leaves.output⟩
  · exact ⟨_, .deviates splits single deviates⟩

/--
The outcome that the groups tell is the one of the reading.  A run with these
arguments ends with the report, if it is one, and otherwise goes on with the
options, nothing having been printed.
-/
theorem arguments_are_recognised (arguments : List String) :
    (∀ outcome, Recognised arguments outcome ↔
      readArguments arguments = outcome) ∧
    ∀ {m : Type → Type} [Monad m] (host : Host m),
      run host arguments =
        match readArguments arguments with
        | .error report => return report
        | .ok options => runWith host options := by
  constructor
  · intro outcome
    constructor
    · exact Recognised.readArguments_eq
    · rintro rfl
      rcases exists_recognised arguments with ⟨outcome, recognised⟩
      rwa [recognised.readArguments_eq]
  · intro m _ host
    rw [run, readArguments]
    cases Options.ofArguments arguments with
    | error stop =>
        rfl
    | ok options =>
        rfl

end Sprig.Command
