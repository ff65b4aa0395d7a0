import Sprig.Program
import Sprig.Proofs.Parser.Soundness
import Sprig.Proofs.Typing.Refinement

/-!
# Which sources are accepted

A source that parses is accepted when three things hold, which can be read off
its tree: every annotation is `int`, every statement has as many values as
receivers, and every name that is mentioned has been declared before.

The reference checker decides this.  Trees that come from a source give a kind
to every binding at once, through an annotation or an initializer, so every
entry of the ledger is known at all times.  `Settled` says so, and each step
of the reference is described by the condition under which it succeeds and by
the settled ledger that it leaves.
-/

namespace Sprig

/-! ## What is asked of a tree -/

/-- The name that a single value reads, if it reads one. -/
def Expr.name? : Expr → Option String
  | .var _ name => some name
  | _ => none

/-- The names that a value reads. -/
def Expr.reads (value : Expr) : List String :=
  value.components.filterMap Expr.name?

namespace Stmt

/-- The annotations of a statement. -/
def annotations : Stmt → List TypeRef
  | .decl _ decls _ => decls.filterMap Decl.type
  | _ => []

/-- The names that a statement declares, in order. -/
def declares : Stmt → List String
  | .decl _ decls _ => declaredNames decls
  | _ => []

/-- The names that a statement assigns or reads. -/
def mentions : Stmt → List String
  | .assign _ names value => names ++ value.reads
  | .decl _ _ (some value) => value.reads
  | .decl _ _ none => []
  | .ret _ value => value.reads
  | .bare _ => []

/-- As many values as receivers, where a return has a given number of them. -/
def Balanced (promised : Nat) : Stmt → Prop
  | .assign _ names value => value.components.length = names.length
  | .decl _ decls (some value) =>
      value.components.length = (declaredNames decls).length
  | .decl _ _ none => True
  | .ret _ value => value.components.length = promised
  | .bare _ => True

end Stmt

namespace Function

/-- Every annotation of a function. -/
def annotations (function : Function) : List TypeRef :=
  function.params.filterMap Decl.type ++ function.rets ++
    function.body.flatMap Stmt.annotations

/-- The names that are declared before a statement of the body, in order. -/
def declaredBefore (function : Function) (index : Nat) : List String :=
  declaredNames function.params ++
    (function.body.take index).flatMap Stmt.declares

/-- Every name that a function declares, in order. -/
def declared (function : Function) : List String :=
  function.declaredBefore function.body.length

/-- Annotations are `int`, counts are equal, and names are declared in time. -/
structure Accepted (function : Function) : Prop where
  annotations : ∀ type ∈ function.annotations, type.name = "int"
  balanced : ∀ stmt ∈ function.body, stmt.Balanced function.rets.length
  inTime : ∀ (index : Nat) (inside : index < function.body.length),
    ∀ name ∈ (function.body[index]).mentions,
      name ∈ function.declaredBefore index

end Function

/-! ## Steps of the reference on settled ledgers -/

/-- Every entry is known; names and promised values are as given. -/
structure Settled
    (names : List String)
    (promised : Nat)
    (ledger : Ledger) : Prop where
  known : ∀ entry ∈ ledger.entries, entry.known = true
  names_eq : ledger.entries.map Entry.name = names
  promised_eq : ledger.promised = promised

/-- An outcome that is a success exactly under a condition. -/
inductive Decides
    {α : Type}
    (accepts : Prop)
    (leaves : α → Ledger → Prop) :
    EStateM.Result TypeError Ledger α → Prop where
  | ok
      {result : α} {ledger : Ledger}
      (accepted : accepts)
      (left : leaves result ledger) :
      Decides accepts leaves (.ok result ledger)
  | error
      {error : TypeError} {ledger : Ledger}
      (rejected : ¬ accepts) :
      Decides accepts leaves (.error error ledger)

namespace Decides

variable {α β : Type}
variable {accepts further : Prop}
variable {leaves : α → Ledger → Prop}
variable {leavesNext : β → Ledger → Prop}
variable {ledger : Ledger}

theorem pure
    {result : α}
    (left : leaves result ledger) :
    Decides True leaves ((Pure.pure result : Reference α) ledger) :=
  .ok trivial left

/-- Both steps must succeed, the second one wherever the first may lead. -/
theorem bind
    {action : Reference α}
    {next : α → Reference β}
    (first : Decides accepts leaves (action ledger))
    (second : ∀ result after, leaves result after →
      Decides further leavesNext (next result after)) :
    Decides (accepts ∧ further) leavesNext ((action >>= next) ledger) := by
  generalize ran : action ledger = outcome at first
  cases first with
  | @ok result after accepted left =>
      rw [bind_eq_of_ok ran]
      have outcome := second _ _ left
      generalize next result after = last at outcome
      cases outcome with
      | ok acceptedNext left =>
          exact .ok ⟨accepted, acceptedNext⟩ left
      | error rejected =>
          exact .error fun both => rejected both.2
  | error rejected =>
      rw [bind_eq_of_error ran]
      exact .error fun both => rejected both.1

/-- The second step always succeeds. -/
theorem follow
    {action : Reference α}
    {next : α → Reference β}
    (first : Decides accepts leaves (action ledger))
    (second : ∀ result after, leaves result after →
      Decides True leavesNext (next result after)) :
    Decides accepts leavesNext ((action >>= next) ledger) := by
  have both := bind first second
  rwa [and_true] at both

/-- The condition put in other words. -/
theorem congr
    {outcome : EStateM.Result TypeError Ledger α}
    (same : accepts ↔ further)
    (decides : Decides accepts leaves outcome) :
    Decides further leaves outcome := by
  rwa [← same]

/-- Less may be said of the end. -/
theorem weaken
    {outcome : EStateM.Result TypeError Ledger α}
    {leavesAlso : α → Ledger → Prop}
    (decides : Decides accepts leaves outcome)
    (weaker : ∀ result after, leaves result after → leavesAlso result after) :
    Decides accepts leavesAlso outcome := by
  cases decides with
  | ok accepted left =>
      exact .ok accepted (weaker _ _ left)
  | error rejected =>
      exact .error rejected

/-- The result does not matter to what follows. -/
theorem discard
    {action : Reference α}
    {left : Ledger → Prop}
    (decides : Decides accepts (fun _ => left) (action ledger)) :
    Decides accepts (fun _ => left) (Functor.discard action ledger) := by
  rw [Functor.discard, map_const, Function.comp_apply, ← bind_pure_comp]
  exact follow decides fun _ _ left => pure left

/-- Steps that leave the ledger as it is must all succeed. -/
theorem mapM
    {action : β → Reference α}
    {acceptsItem : β → Prop}
    {good : α → Prop}
    (items : List β)
    (step : ∀ item ∈ items,
      Decides (acceptsItem item)
        (fun result after => after = ledger ∧ good result)
        (action item ledger)) :
    Decides (∀ item ∈ items, acceptsItem item)
      (fun results after => after = ledger ∧
        results.length = items.length ∧ ∀ result ∈ results, good result)
      (items.mapM action ledger) := by
  induction items with
  | nil =>
      rw [List.mapM_nil]
      exact .ok (List.forall_mem_nil _) ⟨rfl, rfl, List.forall_mem_nil _⟩
  | cons item items ih =>
      rcases List.forall_mem_cons.1 step with ⟨first, others⟩
      rw [List.mapM_cons]
      refine congr List.forall_mem_cons.symm (bind first ?_)
      rintro result _ ⟨rfl, isGood⟩
      apply follow (ih others)
      rintro results _ ⟨rfl, sameLength, areGood⟩
      exact pure ⟨rfl, by rw [List.length_cons, sameLength, List.length_cons],
        List.forall_mem_cons.2 ⟨isGood, areGood⟩⟩

end Decides

variable {names : List String}
variable {promised : Nat}
variable {ledger : Ledger}

/-- The ledger with one more entry that is known. -/
def Ledger.extend (ledger : Ledger) (name : String) (pos : Pos) : Ledger :=
  { ledger with entries := ledger.entries ++ [⟨name, pos, true⟩] }

theorem Settled.extend
    (settled : Settled names promised ledger)
    (name : String)
    (pos : Pos) :
    Settled (names ++ [name]) promised (ledger.extend name pos) where
  known := by
    intro entry member
    rcases List.mem_append.1 member with old | new
    · exact settled.known entry old
    · rw [List.mem_singleton.1 new]
  names_eq := by
    rw [Ledger.extend, List.map_append, settled.names_eq]
    rfl
  promised_eq := settled.promised_eq

/-- What is known of an operand is not forgotten when an entry is added. -/
theorem isInt_append
    {operand : Operand}
    (isInt : ledger.isInt operand = true)
    (added : Entry) :
    Ledger.isInt ⟨ledger.entries ++ [added], ledger.promised⟩ operand =
      true := by
  cases operand with
  | literal =>
      rfl
  | entry index =>
      rcases (Option.any_eq_true _ _).1 isInt with ⟨entry, found, known⟩
      rcases List.getElem?_eq_some_iff.1 found with ⟨inside, -⟩
      refine (Option.any_eq_true _ _).2 ⟨entry, ?_, known⟩
      rw [List.getElem?_append_left inside, found]

/-- The components of a value are atoms. -/
theorem Expr.IsValue.areAtoms
    {value : Expr}
    (isValue : value.IsValue) :
    ∀ component ∈ value.components, component.IsAtom := by
  cases value with
  | tuple pos elements =>
      exact isValue.2
  | intLit pos text =>
      exact List.forall_mem_singleton.2 isValue
  | var pos name =>
      exact List.forall_mem_singleton.2 isValue
  | bare pos =>
      exact isValue.elim

namespace Reference

/-- A name has a newest entry when it has an entry at all. -/
theorem newest?_eq_none_iff
    {entries : List Entry}
    {name : String} :
    newest? name entries = none ↔ name ∉ entries.map Entry.name := by
  induction entries with
  | nil =>
      simp [newest?]
  | cons entry entries ih =>
      rw [newest?, List.map_cons, List.mem_cons, not_or, ← ih]
      cases newest? name entries with
      | none =>
          by_cases same : entry.name = name
          · simp [same]
          · simp [same, Ne.symm same]
      | some index =>
          simp

theorem lt_length_of_newest?
    {entries : List Entry}
    {name : String}
    {index : Nat}
    (newest : newest? name entries = some index) :
    index < entries.length := by
  induction entries generalizing index with
  | nil =>
      cases newest
  | cons entry entries ih =>
      rw [newest?] at newest
      cases later : newest? name entries with
      | some other =>
          rw [later] at newest
          cases newest
          exact Nat.succ_lt_succ (ih later)
      | none =>
          rw [later] at newest
          by_cases same : entry.name = name
          · simp only [if_pos same, Option.some.injEq] at newest
            rw [← newest]
            exact Nat.zero_lt_succ _
          · simp only [if_neg same] at newest
            cases newest

/-- In a settled ledger a name stands for an `int`, if it is declared. -/
theorem lookup_decides
    (settled : Settled names promised ledger)
    (name : String)
    (pos : Pos) :
    Decides (name ∈ names)
      (fun operand after => after = ledger ∧ ledger.isInt operand = true)
      (lookup name pos ledger) := by
  have got : (get : Reference Ledger) ledger = .ok ledger ledger := rfl
  rw [lookup, bind_eq_of_ok got, ← settled.names_eq]
  cases newest : newest? name ledger.entries with
  | none =>
      exact .error (newest?_eq_none_iff.1 newest)
  | some index =>
      have inside := lt_length_of_newest? newest
      have isInt : ledger.isInt (.entry index) = true := by
        rw [Ledger.isInt, List.getElem?_eq_getElem inside, Option.any_some]
        exact settled.known _ (List.getElem_mem inside)
      refine .ok ?_ ⟨rfl, isInt⟩
      by_contra missing
      rw [newest?_eq_none_iff.2 missing] at newest
      cases newest

/-- An atom stands for an `int`, if what it reads is declared. -/
theorem operand_decides
    {value : Expr}
    (settled : Settled names promised ledger)
    (isAtom : value.IsAtom) :
    Decides (∀ name ∈ value.name?, name ∈ names)
      (fun operand after => after = ledger ∧ ledger.isInt operand = true)
      (operand value ledger) := by
  cases value with
  | intLit pos text =>
      apply Decides.ok ?_ ⟨rfl, rfl⟩
      intro name read
      exact (Option.not_mem_none _ read).elim
  | var pos name =>
      refine Decides.congr ?_ (lookup_decides settled name pos)
      simp [Expr.name?]
  | tuple pos elements =>
      exact isAtom.elim
  | bare pos =>
      exact isAtom.elim

theorem operands_decide
    {value : Expr}
    (settled : Settled names promised ledger)
    (isValue : value.IsValue) :
    Decides (∀ name ∈ value.reads, name ∈ names)
      (fun operands after => after = ledger ∧
        operands.length = value.components.length ∧
          ∀ operand ∈ operands, ledger.isInt operand = true)
      (operands value ledger) := by
  rw [operands_eq]
  refine Decides.congr ?_ (Decides.mapM value.components
    fun component member =>
      operand_decides settled (isValue.areAtoms component member))
  simp only [Expr.reads, List.mem_filterMap, Option.mem_def]
  constructor
  · rintro all name ⟨component, member, isName⟩
    exact all component member name isName
  · intro all component member name isName
    exact all name ⟨component, member, isName⟩

theorem arity_decides
    (place : Pairing)
    (expected found : Nat)
    (pos : Pos) :
    Decides (found = expected)
      (fun _ after => after = ledger ∧ found = expected)
      (arity place expected found pos ledger) := by
  rw [arity]
  by_cases same : found = expected
  · rw [if_pos same]
    exact .ok same ⟨rfl, same⟩
  · rw [if_neg same]
    exact .error same

theorem intType_decides (type : TypeRef) :
    Decides (type.name = "int") (fun _ after => after = ledger)
      (intType type ledger) := by
  rw [intType]
  by_cases isInt : type.name = "int"
  · rw [if_pos isInt]
    exact .ok isInt rfl
  · rw [if_neg isInt]
    exact .error isInt

/-- Two operands that are both `int` tell each other nothing. -/
theorem pair_eq
    {first second : Operand}
    (firstInt : ledger.isInt first = true)
    (secondInt : ledger.isInt second = true) :
    pair first second ledger = .ok () ledger := by
  have unchanged : ledger.pair first second = ledger := by
    rw [Ledger.pair, if_pos firstInt, Ledger.settle_of_isInt secondInt]
  have paired : pair first second ledger =
      .ok () (ledger.pair first second) := rfl
  rw [paired, unchanged]

/-! ## Binding names to values that are known -/

/-- A name is known from its annotation, or else from the value it meets. -/
theorem bindName_eq
    {known : Bool}
    {values : List Operand}
    (areInt : ∀ value ∈ values, ledger.isInt value = true)
    (enough : known = true ∨ values ≠ [])
    (name : String)
    (pos : Pos) :
    bindName name pos known values ledger =
      .ok values.tail (ledger.extend name pos) := by
  have declared : declare name pos known ledger =
      .ok (.entry ledger.entries.length)
        ⟨ledger.entries ++ [⟨name, pos, known⟩], ledger.promised⟩ := rfl
  rw [bindName, bind_eq_of_ok declared]
  cases values with
  | nil =>
      rcases enough.resolve_right (· rfl) with rfl
      rfl
  | cons value others =>
      have valueInt := isInt_append (areInt value (.head _)) ⟨name, pos, known⟩
      have bindingInt : Ledger.isInt
          ⟨ledger.entries ++ [⟨name, pos, known⟩], ledger.promised⟩
          (.entry ledger.entries.length) = known := by
        rw [Ledger.isInt, List.getElem?_concat_length, Option.any_some]
      cases known with
      | true =>
          exact bind_eq_of_ok (pair_eq bindingInt valueInt) _
      | false =>
          have paired : pair (.entry ledger.entries.length) value
              ⟨ledger.entries ++ [⟨name, pos, false⟩], ledger.promised⟩ =
                .ok () (ledger.extend name pos) := by
            show EStateM.Result.ok () (Ledger.pair _ _ _) = _
            rw [Ledger.pair, bindingInt, if_neg Bool.false_ne_true,
              if_pos valueInt, Ledger.settle, Ledger.extend]
            rw [List.modify_eq_take_cons_drop (by simp)]
            simp
          exact bind_eq_of_ok paired _

/-- The names of one declaration meet as many values, or none. -/
theorem bindNames_eq
    {known : Bool}
    {values : List Operand}
    (idents : List String)
    (settled : Settled names promised ledger)
    (areInt : ∀ value ∈ values, ledger.isInt value = true)
    (enough : known = true ∨ idents.length ≤ values.length)
    (pos : Pos) :
    ∃ after,
      idents.foldlM (fun values name => bindName name pos known values)
          values ledger =
        .ok (values.drop idents.length) after ∧
      Settled (names ++ idents) promised after ∧
      ∀ operand, ledger.isInt operand = true → after.isInt operand = true := by
  induction idents generalizing values names ledger with
  | nil =>
      refine ⟨ledger, rfl, ?_, fun _ isInt => isInt⟩
      rw [List.append_nil]
      exact settled
  | cons name idents ih =>
      have nonempty : known = true ∨ values ≠ [] := by
        apply enough.imp id
        rintro atLeast rfl
        exact absurd atLeast (Nat.not_succ_le_zero _)
      have enoughLeft : known = true ∨ idents.length ≤ values.tail.length := by
        apply enough.imp id
        intro atLeast
        rw [List.length_tail]
        exact Nat.le_sub_one_of_lt atLeast
      have areIntLeft : ∀ value ∈ values.tail,
          (ledger.extend name pos).isInt value = true := by
        intro value member
        exact isInt_append (areInt value (List.mem_of_mem_tail member)) _
      rcases ih (settled.extend name pos) areIntLeft enoughLeft with
        ⟨after, bound, settledAfter, kept⟩
      refine ⟨after, ?_, ?_, ?_⟩
      · rw [List.foldlM_cons, bind_eq_of_ok (bindName_eq areInt nonempty _ _),
          bound, ← List.drop_one, List.drop_drop, List.length_cons,
          Nat.add_comm]
      · rw [List.append_assoc] at settledAfter
        exact settledAfter
      · intro operand isInt
        exact kept operand (isInt_append isInt _)

theorem annotated_decides (decl : Decl) :
    Decides (∀ type ∈ decl.type, type.name = "int")
      (fun known after => after = ledger ∧ known = decl.type.isSome)
      (annotated decl ledger) := by
  rw [annotated]
  cases decl.type with
  | none =>
      apply Decides.ok ?_ ⟨rfl, rfl⟩
      intro type annotated
      exact (Option.not_mem_none _ annotated).elim
  | some type =>
      have single : type.name = "int" ↔
          ∀ named ∈ some type, named.name = "int" := by
        simp
      refine Decides.congr single (Decides.follow (intType_decides type) ?_)
      rintro _ _ rfl
      exact Decides.pure ⟨rfl, rfl⟩

theorem bindDecl_decides
    {decl : Decl}
    {values : List Operand}
    (settled : Settled names promised ledger)
    (areInt : ∀ value ∈ values, ledger.isInt value = true)
    (enough : decl.type.isSome = true ∨ decl.idents.length ≤ values.length) :
    Decides (∀ type ∈ decl.type, type.name = "int")
      (fun left after => left = values.drop decl.idents.length ∧
        Settled (names ++ decl.idents) promised after ∧
          ∀ value ∈ left, after.isInt value = true)
      (bindDecl decl values ledger) := by
  rw [bindDecl]
  apply Decides.follow (annotated_decides decl)
  rintro _ _ ⟨rfl, rfl⟩
  rcases bindNames_eq decl.idents settled areInt enough decl.pos with
    ⟨after, bound, settledAfter, kept⟩
  rw [bound]
  refine .ok trivial ⟨rfl, settledAfter, ?_⟩
  intro value member
  exact kept value (areInt value (List.mem_of_mem_drop member))

theorem bindDecls_decide
    {values : List Operand}
    (decls : List Decl)
    (settled : Settled names promised ledger)
    (areInt : ∀ value ∈ values, ledger.isInt value = true)
    (enough : (∀ decl ∈ decls, decl.type.isSome = true) ∨
      (declaredNames decls).length ≤ values.length) :
    Decides (∀ decl ∈ decls, ∀ type ∈ decl.type, type.name = "int")
      (fun _ after => Settled (names ++ declaredNames decls) promised after)
      (decls.foldlM (fun values decl => bindDecl decl values)
        values ledger) := by
  induction decls generalizing values names ledger with
  | nil =>
      apply Decides.ok (List.forall_mem_nil _)
      rw [declaredNames, List.flatMap_nil, List.append_nil]
      exact settled
  | cons decl decls ih =>
      have enoughHere :
          decl.type.isSome = true ∨ decl.idents.length ≤ values.length := by
        apply enough.imp (fun typed => typed decl (.head _))
        intro atLeast
        rw [declaredNames, List.flatMap_cons, List.length_append] at atLeast
        exact Nat.le_of_add_right_le atLeast
      rw [List.foldlM_cons, declaredNames, List.flatMap_cons,
        ← List.append_assoc]
      refine Decides.congr List.forall_mem_cons.symm
        (Decides.bind (bindDecl_decides settled areInt enoughHere) ?_)
      rintro _ after ⟨rfl, settledAfter, areIntLeft⟩
      apply ih settledAfter areIntLeft
      apply enough.imp (fun typed decl member => typed decl (.tail _ member))
      intro atLeast
      rw [declaredNames, List.flatMap_cons, List.length_append] at atLeast
      rw [List.length_drop]
      exact Nat.le_sub_of_add_le' atLeast

/-! ## Statements -/

/-- What is asked of a statement after which names have been declared. -/
structure StmtAccepted
    (names : List String)
    (promised : Nat)
    (statement : Stmt) : Prop where
  annotations : ∀ type ∈ statement.annotations, type.name = "int"
  balanced : statement.Balanced promised
  mentions : ∀ name ∈ statement.mentions, name ∈ names

/-- An initializer, if there is one, gives a value to every name. -/
theorem initializers_decide
    {decls : List Decl}
    {value : Option Expr}
    (settled : Settled names promised ledger)
    (isValue : ∀ initial ∈ value, initial.IsValue)
    (pos : Pos) :
    Decides
      ((∀ name ∈ (Stmt.decl pos decls value).mentions, name ∈ names) ∧
        (Stmt.decl pos decls value).Balanced promised)
      (fun values after => after = ledger ∧
        (∀ value ∈ values, ledger.isInt value = true) ∧
          (value.isSome = true →
            (declaredNames decls).length ≤ values.length))
      (initializers pos decls value ledger) := by
  cases value with
  | none =>
      have nothing : ∀ value ∈ ([] : List Operand), ledger.isInt value = true :=
        List.forall_mem_nil _
      refine .ok ⟨List.forall_mem_nil _, trivial⟩ ⟨rfl, nothing, ?_⟩
      intro given
      cases given
  | some initial =>
      rw [initializers]
      apply Decides.bind (operands_decide settled (isValue initial rfl))
      rintro values _ ⟨rfl, sameLength, areInt⟩
      rw [sameLength]
      apply Decides.follow (arity_decides _ _ _ pos)
      rintro _ _ ⟨rfl, balanced⟩
      refine Decides.pure ⟨rfl, areInt, fun _ => ?_⟩
      exact Nat.le_of_eq (balanced.symm.trans sameLength.symm)

theorem declStmt_decides
    {decls : List Decl}
    {value : Option Expr}
    (settled : Settled names promised ledger)
    (oneWay : DeclaresOneWay decls value)
    (pos : Pos) :
    Decides (StmtAccepted names promised (.decl pos decls value))
      (fun _ after => Settled (names ++ declaredNames decls) promised after)
      (declStmt pos decls value ledger) := by
  have whole : Decides
      (((∀ name ∈ (Stmt.decl pos decls value).mentions, name ∈ names) ∧
        (Stmt.decl pos decls value).Balanced promised) ∧
          ∀ decl ∈ decls, ∀ type ∈ decl.type, type.name = "int")
      (fun _ after => Settled (names ++ declaredNames decls) promised after)
      (declStmt pos decls value ledger) := by
    rw [declStmt]
    apply Decides.bind (initializers_decide settled oneWay.isValue pos)
    rintro values _ ⟨rfl, areInt, enough⟩
    exact Decides.discard
      (bindDecls_decide decls settled areInt (oneWay.typed.imp id enough))
  refine Decides.congr ?_ whole
  constructor
  · rintro ⟨⟨mentions, balanced⟩, typed⟩
    exact ⟨List.forall_mem_filterMap.2 typed, balanced, mentions⟩
  · rintro ⟨typed, balanced, mentions⟩
    exact ⟨⟨mentions, balanced⟩, List.forall_mem_filterMap.1 typed⟩

theorem assignStmt_decides
    {value : Expr}
    (settled : Settled names promised ledger)
    (isValue : value.IsValue)
    (pos : Pos)
    (targets : List String) :
    Decides (StmtAccepted names promised (.assign pos targets value))
      (fun _ after => after = ledger)
      (assignStmt pos targets value ledger) := by
  have whole : Decides
      ((∀ name ∈ targets, name ∈ names) ∧
        (∀ name ∈ value.reads, name ∈ names) ∧
          value.components.length = targets.length)
      (fun _ after => after = ledger)
      (assignStmt pos targets value ledger) := by
    rw [assignStmt]
    apply Decides.bind (Decides.mapM targets fun name _ =>
      lookup_decides settled name pos)
    rintro operands _ ⟨rfl, sameLength, targetsInt⟩
    apply Decides.bind (operands_decide settled isValue)
    rintro values _ ⟨rfl, valuesLength, valuesInt⟩
    rw [sameLength, valuesLength]
    apply Decides.follow (arity_decides _ _ _ pos)
    rintro _ after ⟨rfl, -⟩
    have idle : ((operands.zip values).forM
        fun both => pair both.1 both.2 : Reference Unit) after =
          .ok () after := by
      apply forM_eq_of_forall
      rintro ⟨target, value⟩ member
      rcases List.of_mem_zip member with ⟨isTarget, isOperand⟩
      exact pair_eq (targetsInt target isTarget) (valuesInt value isOperand)
    rw [idle]
    exact .ok trivial rfl
  refine Decides.congr ?_ whole
  constructor
  · rintro ⟨targets, reads, balanced⟩
    exact ⟨List.forall_mem_nil _, balanced,
      List.forall_mem_append.2 ⟨targets, reads⟩⟩
  · rintro ⟨-, balanced, mentions⟩
    rcases List.forall_mem_append.1 mentions with ⟨targets, reads⟩
    exact ⟨targets, reads, balanced⟩

theorem returnStmt_decides
    {value : Expr}
    (settled : Settled names promised ledger)
    (isValue : value.IsValue)
    (pos : Pos) :
    Decides (StmtAccepted names promised (.ret pos value))
      (fun _ after => after = ledger)
      (returnStmt pos value ledger) := by
  have whole : Decides
      ((∀ name ∈ value.reads, name ∈ names) ∧
        value.components.length = promised)
      (fun _ after => after = ledger)
      (returnStmt pos value ledger) := by
    rw [returnStmt]
    apply Decides.bind (operands_decide settled isValue)
    rintro values ledger ⟨rfl, valuesLength, valuesInt⟩
    have got : (get : Reference Ledger) ledger = .ok ledger ledger := rfl
    rw [bind_eq_of_ok got, valuesLength, settled.promised_eq]
    apply Decides.follow (arity_decides _ _ _ pos)
    rintro _ after ⟨rfl, -⟩
    have idle : (values.forM fun value => pair .literal value :
        Reference Unit) after = .ok () after :=
      forM_eq_of_forall fun value member => pair_eq rfl (valuesInt value member)
    rw [idle]
    exact .ok trivial rfl
  refine Decides.congr ?_ whole
  constructor
  · rintro ⟨mentions, balanced⟩
    exact ⟨List.forall_mem_nil _, balanced, mentions⟩
  · rintro ⟨-, balanced, mentions⟩
    exact ⟨mentions, balanced⟩

theorem stmt_decides
    {statement : Stmt}
    (settled : Settled names promised ledger)
    (wellFormed : statement.WellFormed) :
    Decides (StmtAccepted names promised statement)
      (fun _ after => Settled (names ++ statement.declares) promised after)
      (stmt statement ledger) := by
  cases statement with
  | decl pos decls value =>
      exact declStmt_decides settled wellFormed.2.2 pos
  | assign pos targets value =>
      apply (assignStmt_decides settled wellFormed.2.2 pos targets).weaken
      rintro _ _ rfl
      show Settled (names ++ []) promised _
      rw [List.append_nil]
      exact settled
  | ret pos value =>
      apply (returnStmt_decides settled wellFormed pos).weaken
      rintro _ _ rfl
      show Settled (names ++ []) promised _
      rw [List.append_nil]
      exact settled
  | bare pos =>
      exact wellFormed.elim

/-- What is asked of consecutive statements. -/
structure BodyAccepted
    (names : List String)
    (promised : Nat)
    (body : List Stmt) : Prop where
  annotations : ∀ type ∈ body.flatMap Stmt.annotations, type.name = "int"
  balanced : ∀ stmt ∈ body, stmt.Balanced promised
  inTime : ∀ (index : Nat) (inside : index < body.length),
    ∀ name ∈ (body[index]).mentions,
      name ∈ names ++ (body.take index).flatMap Stmt.declares

/-- The first statement sees what came before, the others what it declares. -/
theorem bodyAccepted_cons_iff
    {statement : Stmt}
    {body : List Stmt} :
    BodyAccepted names promised (statement :: body) ↔
      StmtAccepted names promised statement ∧
        BodyAccepted (names ++ statement.declares) promised body := by
  constructor
  · rintro ⟨annotations, balanced, inTime⟩
    rw [List.flatMap_cons, List.forall_mem_append] at annotations
    rw [List.forall_mem_cons] at balanced
    refine ⟨⟨annotations.1, balanced.1, ?_⟩, ⟨annotations.2, balanced.2, ?_⟩⟩
    · intro name mentioned
      have before := inTime 0 (Nat.zero_lt_succ _) name mentioned
      rwa [List.take_zero, List.flatMap_nil, List.append_nil] at before
    · intro index inside name mentioned
      have before :=
        inTime (index + 1) (Nat.succ_lt_succ inside) name mentioned
      rwa [List.take_succ_cons, List.flatMap_cons, ← List.append_assoc]
        at before
  · rintro ⟨first, others⟩
    refine ⟨?_, ?_, ?_⟩
    · rw [List.flatMap_cons, List.forall_mem_append]
      exact ⟨first.annotations, others.annotations⟩
    · exact List.forall_mem_cons.2 ⟨first.balanced, others.balanced⟩
    · intro index inside name mentioned
      cases index with
      | zero =>
          rw [List.take_zero, List.flatMap_nil, List.append_nil]
          exact first.mentions name mentioned
      | succ index =>
          rw [List.take_succ_cons, List.flatMap_cons, ← List.append_assoc]
          exact others.inTime index (Nat.lt_of_succ_lt_succ inside) name
            mentioned

theorem body_decides
    {body : List Stmt}
    (settled : Settled names promised ledger)
    (wellFormed : ∀ stmt ∈ body, stmt.WellFormed) :
    Decides (BodyAccepted names promised body)
      (fun _ after =>
        Settled (names ++ body.flatMap Stmt.declares) promised after)
      ((body.forM stmt : Reference Unit) ledger) := by
  induction body generalizing names ledger with
  | nil =>
      apply Decides.ok ⟨nofun, nofun, nofun⟩
      rw [List.flatMap_nil, List.append_nil]
      exact settled
  | cons statement body ih =>
      rcases List.forall_mem_cons.1 wellFormed with ⟨first, others⟩
      rw [List.flatMap_cons, ← List.append_assoc]
      refine Decides.congr bodyAccepted_cons_iff.symm
        (Decides.bind (stmt_decides settled first) ?_)
      intro _ after settled
      exact ih settled others

/-! ## Functions -/

theorem declareAll_eq
    (settled : Settled names promised ledger)
    (idents : List String)
    (pos : Pos) :
    ∃ after,
      (idents.forM fun name => discard (declare name pos true) :
          Reference Unit) ledger = .ok () after ∧
        Settled (names ++ idents) promised after := by
  induction idents generalizing names ledger with
  | nil =>
      refine ⟨ledger, rfl, ?_⟩
      rw [List.append_nil]
      exact settled
  | cons name idents ih =>
      have declared : (discard (declare name pos true) : Reference Unit)
          ledger = .ok () (ledger.extend name pos) := rfl
      rcases ih (settled.extend name pos) with ⟨after, bound, settledAfter⟩
      refine ⟨after, (bind_eq_of_ok declared _).trans bound, ?_⟩
      rw [List.append_assoc] at settledAfter
      exact settledAfter

/-- Parameters are always annotated, so all of them are known. -/
theorem param_decides
    {decl : Decl}
    (settled : Settled names promised ledger)
    (isGroup : decl.IsGroup) :
    Decides (∀ type ∈ decl.type, type.name = "int")
      (fun _ after => Settled (names ++ decl.idents) promised after)
      (param decl ledger) := by
  rcases isGroup with ⟨-, type, annotated, -⟩
  rw [param]
  apply Decides.follow (annotated_decides decl)
  rintro _ _ ⟨rfl, rfl⟩
  rcases declareAll_eq settled decl.idents decl.pos with
    ⟨after, bound, settledAfter⟩
  rw [Option.isSome_of_mem annotated, bound]
  exact .ok trivial settledAfter

theorem params_decide
    {params : List Decl}
    (settled : Settled names promised ledger)
    (areGroups : ∀ decl ∈ params, decl.IsGroup) :
    Decides (∀ decl ∈ params, ∀ type ∈ decl.type, type.name = "int")
      (fun _ after => Settled (names ++ declaredNames params) promised after)
      ((params.forM param : Reference Unit) ledger) := by
  induction params generalizing names ledger with
  | nil =>
      apply Decides.ok (List.forall_mem_nil _)
      rw [declaredNames, List.flatMap_nil, List.append_nil]
      exact settled
  | cons decl params ih =>
      rcases List.forall_mem_cons.1 areGroups with ⟨first, others⟩
      rw [declaredNames, List.flatMap_cons, ← List.append_assoc]
      refine Decides.congr List.forall_mem_cons.symm
        (Decides.bind (param_decides settled first) ?_)
      intro _ after settled
      exact ih settled others

theorem rets_decide (types : List TypeRef) :
    Decides (∀ type ∈ types, type.name = "int")
      (fun _ after => after = ledger)
      ((types.forM intType : Reference Unit) ledger) := by
  induction types with
  | nil =>
      exact .ok (List.forall_mem_nil _) rfl
  | cons type types ih =>
      refine Decides.congr List.forall_mem_cons.symm
        (Decides.bind (intType_decides type) ?_)
      rintro _ _ rfl
      exact ih

/-- A settled ledger has no name to complain about. -/
theorem resolved_eq (settled : Settled names promised ledger) :
    resolved ledger = .ok () ledger := by
  have idle : ((unshadowed Entry.name ledger.entries).forM fun entry =>
      if entry.known then
        return ()
      else
        throw ⟨.unresolved entry.name, entry.pos⟩ : Reference Unit) ledger =
          .ok () ledger := by
    apply forM_eq_of_forall
    intro entry member
    rw [if_pos (settled.known entry (unshadowed_subset _ _ entry member))]
    rfl
  exact idle

theorem settled_initial : Settled [] 0 .initial where
  known := List.forall_mem_nil _
  names_eq := rfl
  promised_eq := rfl

theorem function_decides
    {code : Function}
    (wellFormed : code.WellFormed) :
    Decides
      ((∀ decl ∈ code.params, ∀ type ∈ decl.type, type.name = "int") ∧
        (∀ type ∈ code.rets, type.name = "int") ∧
          BodyAccepted (declaredNames code.params) code.rets.length code.body)
      (fun _ after => Settled code.declared code.rets.length after)
      (function code .initial) := by
  rw [function]
  apply Decides.bind (params_decide settled_initial wellFormed.params)
  intro _ _ settled
  apply Decides.bind (rets_decide code.rets)
  rintro _ ledger rfl
  have promised : Settled (declaredNames code.params) code.rets.length
      ⟨ledger.entries, code.rets.length⟩ :=
    { settled with promised_eq := rfl }
  have declared : code.declared =
      declaredNames code.params ++ code.body.flatMap Stmt.declares := by
    rw [Function.declared, Function.declaredBefore, List.take_length]
  rw [declared]
  exact body_decides promised wellFormed.body

/-- What is asked of a function, part by part. -/
theorem accepted_iff {code : Function} :
    code.Accepted ↔
      (∀ decl ∈ code.params, ∀ type ∈ decl.type, type.name = "int") ∧
        (∀ type ∈ code.rets, type.name = "int") ∧
          BodyAccepted (declaredNames code.params) code.rets.length
            code.body := by
  have annotations : (∀ type ∈ code.annotations, type.name = "int") ↔
      (∀ decl ∈ code.params, ∀ type ∈ decl.type, type.name = "int") ∧
        (∀ type ∈ code.rets, type.name = "int") ∧
          ∀ type ∈ code.body.flatMap Stmt.annotations, type.name = "int" := by
    rw [Function.annotations, List.forall_mem_append, List.forall_mem_append,
      List.forall_mem_filterMap, and_assoc]
    rfl
  constructor
  · rintro ⟨typed, balanced, inTime⟩
    rcases annotations.1 typed with ⟨params, rets, body⟩
    exact ⟨params, rets, body, balanced, inTime⟩
  · rintro ⟨params, rets, body, balanced, inTime⟩
    exact ⟨annotations.2 ⟨params, rets, body⟩, balanced, inTime⟩

theorem program_decides
    {code : Function}
    (wellFormed : code.WellFormed) :
    Decides code.Accepted
      (fun _ after => Settled code.declared code.rets.length after)
      (program code false .initial) := by
  rw [program]
  apply Decides.follow
    (Decides.congr accepted_iff.symm (function_decides wellFormed))
  intro _ after settled
  show Decides True _ (resolved after)
  rw [resolved_eq settled]
  exact .ok trivial settled

end Reference

/-- In a settled ledger every visible name is an `int`. -/
theorem Settled.kinds_eq (settled : Settled names promised ledger) :
    ledger.kinds = names.dedup.map fun name => (name, .int) := by
  rw [← settled.names_eq, ← map_unshadowed, List.map_map, Ledger.kinds]
  apply List.map_congr_left
  intro entry member
  have known := settled.known entry (unshadowed_subset _ _ entry member)
  rw [Entry.kind, known]
  rfl

/--
Checking a source that parses succeeds exactly when its function is accepted.
The kinds are then `int` for each declared name once, in the order of the last
declarations.
-/
theorem check_iff_accepted
    {source : String}
    {function : Function}
    (parsed : parse source = .ok function) :
    ((∃ checked, check source false = .ok checked) ↔ function.Accepted) ∧
      ∀ checked, check source false = .ok checked →
        checked.kinds =
          function.declared.dedup.map fun name => (name, .int) := by
  rcases exists_layout_of_parse parsed with ⟨wellFormed, -⟩
  have outcome := matches_program function false
  have decided := Reference.program_decides wellFormed
  rw [check, parsed]
  simp only [Function.check]
  generalize Check.program function false .initial = result at outcome
  generalize Reference.program function false .initial = answer
    at outcome decided
  cases outcome with
  | @ok later state ledger _ _ grows simulates _ =>
      cases decided with
      | ok accepted settled =>
          refine ⟨⟨fun _ => accepted, fun _ => ⟨_, rfl⟩⟩, ?_⟩
          rintro checked ⟨⟩
          rw [simulates.kinds_eq_ledger function, settled.kinds_eq]
  | error error =>
      cases decided with
      | error rejected =>
          refine ⟨⟨?_, fun accepted => (rejected accepted).elim⟩, ?_⟩
          · rintro ⟨checked, ⟨⟩⟩
          · intro checked succeeds
            cases succeeds

/-- A declaration that hides a parameter moves its name to the end. -/
theorem check_iff_accepted_shadowing :
    ∃ (function : Function) (checked : Checked),
      parse "fn f(x: int) -> int \x7b y, z := x, 1 x := z return y \x7d" =
          .ok function ∧
        check "fn f(x: int) -> int \x7b y, z := x, 1 x := z return y \x7d"
            false = .ok checked ∧
        checked.kinds = [("y", .int), ("z", .int), ("x", .int)] := by
  have parsed :
      parse "fn f(x: int) -> int \x7b y, z := x, 1 x := z return y \x7d" =
        .ok
          ⟨⟨1, 1⟩, "f", [⟨⟨1, 6⟩, ["x"], some ⟨⟨1, 9⟩, "int"⟩⟩],
            [⟨⟨1, 17⟩, "int"⟩],
            [ .decl ⟨1, 23⟩
                [⟨⟨1, 23⟩, ["y"], none⟩, ⟨⟨1, 23⟩, ["z"], none⟩]
                (some (.tuple ⟨1, 31⟩
                  [.var ⟨1, 31⟩ "x", .intLit ⟨1, 34⟩ "1"])),
              .decl ⟨1, 36⟩ [⟨⟨1, 36⟩, ["x"], none⟩]
                (some (.var ⟨1, 41⟩ "z")),
              .ret ⟨1, 43⟩ (.var ⟨1, 50⟩ "y") ]⟩ := by
    decide +kernel
  rcases check_iff_accepted parsed with ⟨accepts, kinds⟩
  rcases
      accepts.2
        { annotations := by decide
          balanced := by
            intro stmt member
            simp only [List.mem_cons, List.not_mem_nil, or_false] at member
            rcases member with rfl | rfl | rfl
            · rfl
            · rfl
            · rfl
          inTime := by decide } with
    ⟨checked, succeeds⟩
  exact ⟨_, checked, parsed, succeeds,
    (kinds checked succeeds).trans (by decide)⟩

end Sprig
