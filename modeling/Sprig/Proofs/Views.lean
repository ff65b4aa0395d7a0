import Mathlib.Data.List.Forall2
import Sprig.Proofs.Scope
import Sprig.Proofs.Typing.Coherence
import Sprig.Proofs.Typing.Symmetry
import Sprig.Typing.Checked

/-!
# Views of a scope

Scopes are persistent: any handle that is still held can be extended, and the
handles so made form a tree.  `Insertion` is one such step, which names the
handle that it extends, and the same steps on plain lists give the history of
each handle, its bindings in the order in which they were made.

All views of a handle are views of its history.  `Scope.Shows` says which:
the length, the bindings, the look-up of a name and the visible names, whose
order is told by indices in the history and by what one more binding does.

A checked function is read through such a scope.  Its visible names with
their kinds, the kind of a single name and the printed bindings answer alike.
Reading shortens ways in the arena, which no later reading notices.
-/

namespace Sprig

variable {α σ τ : Type}

/-! ## Handles and their histories -/

/-- One more binding, in front of what an earlier handle shows. -/
structure Insertion (α : Type) where
  handle : Nat
  name : String
  value : α
  deriving DecidableEq, Repr

namespace Insertion

/-- The handles with one more; as they are if there is nothing to extend. -/
def extend
    (bind : σ → String → α → σ)
    (handles : List σ)
    (insertion : Insertion α) :
    List σ :=
  match handles[insertion.handle]? with
  | some handle => handles ++ [bind handle insertion.name insertion.value]
  | none => handles

variable {bind : σ → String → α → σ}
variable {bindAlike : τ → String → α → τ}
variable {alike : σ → τ → Prop}
variable {handles : List σ}
variable {others : List τ}

/-- Handles at the same place are alike, and so are the handles made of them. -/
theorem forall₂_extend
    (binds : ∀ handle other name value, alike handle other →
      alike (bind handle name value) (bindAlike other name value))
    (allAlike : List.Forall₂ alike handles others)
    (insertion : Insertion α) :
    List.Forall₂ alike (extend bind handles insertion)
      (extend bindAlike others insertion) := by
  rcases List.forall₂_iff_get.1 allAlike with ⟨sameLength, alikeAt⟩
  by_cases inside : insertion.handle < handles.length
  · have otherInside := sameLength ▸ inside
    rw [extend, extend, List.getElem?_eq_getElem inside,
      List.getElem?_eq_getElem otherInside]
    apply List.rel_append allAlike
    exact .cons (binds _ _ _ _ (alikeAt _ inside otherInside)) .nil
  · have outside := Nat.le_of_not_lt inside
    rw [extend, extend, List.getElem?_eq_none outside,
      List.getElem?_eq_none (sameLength ▸ outside)]
    exact allAlike

/-- Two runs of the same insertions have like handles at the same places. -/
theorem forall₂_foldl
    (binds : ∀ handle other name value, alike handle other →
      alike (bind handle name value) (bindAlike other name value))
    (allAlike : List.Forall₂ alike handles others)
    (insertions : List (Insertion α)) :
    List.Forall₂ alike (insertions.foldl (extend bind) handles)
      (insertions.foldl (extend bindAlike) others) := by
  induction insertions generalizing handles others with
  | nil =>
      exact allAlike
  | cons insertion insertions ih =>
      exact ih (forall₂_extend binds allAlike insertion)

end Insertion

namespace Scope

/-- The handles after some insertions, which start with the empty scope. -/
def handles (insertions : List (Insertion α)) : List (Scope α) :=
  insertions.foldl (Insertion.extend insert) [empty]

/-- The bindings of each handle in the order in which they were made. -/
def histories (insertions : List (Insertion α)) : List (List (String × α)) :=
  insertions.foldl
    (Insertion.extend fun history name value => history ++ [(name, value)])
    [[]]

theorem toList_handles (insertions : List (Insertion α)) :
    List.Forall₂
      (fun (scope : Scope α) history => scope.toList = history.reverse)
      (handles insertions) (histories insertions) := by
  apply Insertion.forall₂_foldl
  · intro scope history name value shown
    rw [toList_insert, shown, List.reverse_append]
    rfl
  · exact .cons rfl .nil

/-! ## The views of one handle -/

theorem length_toList (scope : Scope α) :
    scope.toList.length = scope.size := by
  induction scope with
  | empty =>
      rfl
  | bind outer name value ih =>
      rw [toList, List.length_cons, ih, size]

/-- A name is found at its first binding, newest first. -/
theorem get?_eq_some_iff
    {scope : Scope α}
    {name : String}
    {value : α} :
    scope.get? name = some value ↔
      ∃ newer older, scope.toList = newer ++ (name, value) :: older ∧
        ∀ binding ∈ newer, binding.1 ≠ name := by
  rw [← lookup_toList, List.lookup_eq_some_iff]
  constructor
  · rintro ⟨newer, older, same, passed⟩
    refine ⟨newer, older, same, fun binding member => ?_⟩
    exact Ne.symm (by simpa using passed binding member)
  · rintro ⟨newer, older, same, passed⟩
    refine ⟨newer, older, same, fun binding member => ?_⟩
    simpa using Ne.symm (passed binding member)

theorem get?_eq_none_iff
    {scope : Scope α}
    {name : String} :
    scope.get? name = none ↔ ∀ binding ∈ scope.toList, binding.1 ≠ name := by
  rw [← lookup_toList, List.lookup_eq_none_iff]
  constructor
  · intro passed binding member
    exact Ne.symm (by simpa using passed binding member)
  · intro passed binding member
    simpa using Ne.symm (passed binding member)

/-- What the views of a scope show of the history of its bindings. -/
structure Shows (scope : Scope α) (history : List (String × α)) : Prop where
  toList_eq : scope.toList = history.reverse
  size_eq : scope.size = scope.toList.length
  found : ∀ name value,
    scope.get? name = some value ↔
      ∃ newer older, scope.toList = newer ++ (name, value) :: older ∧
        ∀ binding ∈ newer, binding.1 ≠ name
  missing : ∀ name,
    scope.get? name = none ↔ ∀ binding ∈ scope.toList, binding.1 ≠ name
  once : (scope.visible.map Prod.fst).Nodup
  bound : ∀ name,
    name ∈ scope.visible.map Prod.fst ↔ name ∈ scope.toList.map Prod.fst
  lookup_eq : ∀ name, scope.visible.lookup name = scope.get? name
  ages : ∃ ages : List Nat, ages.Pairwise (· < ·) ∧
    List.Forall₂ (Newest Prod.fst history) ages scope.visible
  redeclared : ∀ name value,
    (scope.insert name value).visible =
      scope.visible.filter (fun binding => binding.1 ≠ name) ++
        [(name, value)]

theorem shows
    {scope : Scope α}
    {history : List (String × α)}
    (shown : scope.toList = history.reverse) :
    scope.Shows history where
  toList_eq := shown
  size_eq := scope.length_toList.symm
  found := fun _ _ => get?_eq_some_iff
  missing := fun _ => get?_eq_none_iff
  once := by
    rw [names_visible]
    exact List.nodup_dedup _
  bound := by
    intro name
    rw [names_visible, List.mem_dedup, List.map_reverse, List.mem_reverse]
  lookup_eq := scope.lookup_visible
  ages := by
    rw [visible_eq_unshadowed, shown, List.reverse_reverse]
    exact exists_ages_unshadowed Prod.fst history
  redeclared := scope.visible_insert

end Scope

/-! ## The kinds of a checked function -/

theorem lookup_map
    (change : α → σ)
    (bindings : List (String × α))
    (name : String) :
    (bindings.map fun binding => (binding.1, change binding.2)).lookup name =
      (bindings.lookup name).map change := by
  induction bindings with
  | nil =>
      rfl
  | cons first others ih =>
      rw [List.map_cons, List.lookup_cons, List.lookup_cons, ih]
      cases name == first.1 with
      | true =>
          rfl
      | false =>
          rfl

namespace Checked

variable {checked : Checked}

/-- The list of all kinds, the kind of one name and the output answer alike. -/
structure ViewsAgree (checked : Checked) : Prop where
  names : checked.kinds.map Prod.fst = checked.scope.visible.map Prod.fst
  once : (checked.kinds.map Prod.fst).Nodup
  lookup_eq : ∀ name, checked.kinds.lookup name = checked.kindOf? name
  printed : ∃ members,
    checked.toJson =
        .obj [("function", .str checked.function.name),
          ("bindings", .obj members)] ∧
      members.map Prod.fst = checked.kinds.map Prod.fst ∧
      ∀ name, members.lookup name =
        (checked.kindOf? name).map fun kind => .str kind.name

theorem names_kinds (checked : Checked) :
    checked.kinds.map Prod.fst = checked.scope.visible.map Prod.fst := by
  rw [kinds, List.map_map]
  rfl

theorem lookup_kinds (checked : Checked) (name : String) :
    checked.kinds.lookup name = checked.kindOf? name := by
  rw [kinds, lookup_map fun declared : Declared =>
      checked.arena.kindOf declared.slot, Scope.lookup_visible, kindOf?]

theorem viewsAgree (checked : Checked) : checked.ViewsAgree where
  names := checked.names_kinds
  once := by
    rw [names_kinds, Scope.names_visible]
    exact List.nodup_dedup _
  lookup_eq := checked.lookup_kinds
  printed := by
    refine ⟨_, rfl, ?_, fun name => ?_⟩
    · rw [List.map_map]
      rfl
    · rw [lookup_map fun kind : Kind => Json.str kind.name, lookup_kinds]

/-! ## Readings that shorten ways -/

/-- The kind of the newest binding of a name, read in an arena. -/
def readKind?
    (checked : Checked)
    (name : String) :
    ArenaM (Option Kind) := do
  match checked.scope.get? name with
  | none => return none
  | some declared => return some (← Arena.get declared.slot)

/-- The kinds of some bindings, read one after the other. -/
def readBindings
    (bindings : List (String × Declared)) :
    ArenaM (List (String × Kind)) :=
  bindings.mapM fun (name, declared) => return (name, ← Arena.get declared.slot)

/-- The visible names with their kinds, read one after the other. -/
def readKinds (checked : Checked) : ArenaM (List (String × Kind)) :=
  readBindings checked.scope.visible

/-- Every bound slot lies in an arena in which all ways end. -/
structure Readable (checked : Checked) : Prop where
  forest : checked.arena.Forest
  inside : ∀ binding ∈ checked.scope.toList,
    binding.2.slot < checked.arena.size

end Checked

namespace Arena

variable {arena before after : Arena}
variable {slot : Nat}
variable {result : α}

/--
A reading in an arena whose classes are those of an earlier one.  It gives the
expected result and keeps the classes.
-/
def Reads
    (action : ArenaM α) (before : Arena) (result : α) : Prop :=
  ∀ arena, before.SameClasses arena →
    ∃ after, action arena = .ok result after ∧ before.SameClasses after

theorem reads_pure (value : α) : Reads (pure value) before value :=
  fun arena same => ⟨arena, rfl, same⟩

theorem Reads.bind
    {action : ArenaM α}
    {next : α → ArenaM σ}
    {last : σ}
    (first : Reads action before result)
    (second : Reads (next result) before last) :
    Reads (action >>= next) before last := by
  intro arena same
  rcases first arena same with ⟨middle, ran, kept⟩
  rw [bind_eq_of_ok ran]
  exact second middle kept

/-- The kind of a slot is read as it was in the earlier arena. -/
theorem Forest.reads_get
    (forest : before.Forest)
    (inside : slot < before.size) :
    Reads (get slot) before (before.kindOf slot) := by
  intro arena same
  rcases forest.exists_resolves inside with ⟨root, kind, resolves⟩
  have resolvesHere := same.resolves slot root kind resolves
  rcases same.forest.find resolvesHere with ⟨after, found, kept⟩
  have resolvesAfter := kept.resolves slot root kind resolvesHere
  refine ⟨after, ?_, same.trans kept⟩
  rw [get, bind_eq_of_ok found, resolves.kindOf_eq, stored]
  simp only [resolvesAfter.stored]

end Arena

namespace Checked

variable {checked : Checked}

theorem Readable.reads_kind?
    (readable : checked.Readable)
    (name : String) :
    Arena.Reads (checked.readKind? name) checked.arena
      (checked.kindOf? name) := by
  rw [readKind?, kindOf?]
  cases found : checked.scope.get? name with
  | none =>
      exact Arena.reads_pure none
  | some declared =>
      rcases Scope.get?_eq_some_iff.1 found with ⟨newer, older, same, -⟩
      have inside : declared.slot < checked.arena.size := by
        apply readable.inside (name, declared)
        rw [same]
        exact List.mem_append_right newer (.head older)
      exact (readable.forest.reads_get inside).bind (Arena.reads_pure _)

theorem Readable.reads_bindings
    (readable : checked.Readable)
    (bindings : List (String × Declared))
    (inside : ∀ binding ∈ bindings, binding.2.slot < checked.arena.size) :
    Arena.Reads (readBindings bindings) checked.arena
      (bindings.map fun binding =>
        (binding.1, checked.arena.kindOf binding.2.slot)) := by
  induction bindings with
  | nil =>
      exact Arena.reads_pure []
  | cons first others ih =>
      rw [List.forall_mem_cons] at inside
      rw [readBindings, List.mapM_cons]
      refine Arena.Reads.bind ?_ ((ih inside.2).bind (Arena.reads_pure _))
      exact (readable.forest.reads_get inside.1).bind (Arena.reads_pure _)

theorem Readable.reads_kinds (readable : checked.Readable) :
    Arena.Reads checked.readKinds checked.arena checked.kinds := by
  apply readable.reads_bindings
  intro binding visible
  exact readable.inside binding (Scope.mem_of_mem_visible visible)

end Checked

namespace Check

theorem keeps_program
    {state : CheckState}
    (coherent : state.Coherent)
    (code : Function)
    (allowUnresolved : Bool) :
    Keeps coherence state (fun _ _ => True)
      (program code allowUnresolved state) := by
  rw [program]
  refine (keeps_function coherent code).bind ?_
  intro _ later coherentLater _ _
  cases allowUnresolved with
  | true =>
      exact .pure coherentLater trivial
  | false =>
      exact keeps_resolved coherentLater

end Check

/-- What a check returns can be read. -/
theorem Function.readable_of_check
    {code : Function}
    {allowUnresolved : Bool}
    {checked : Checked}
    (passed : code.check allowUnresolved = .ok checked) :
    checked.Readable := by
  have keeps :=
    Check.keeps_program CheckState.coherent_initial code allowUnresolved
  rw [check] at passed
  cases outcome : Check.program code allowUnresolved .initial with
  | ok value state =>
      rw [outcome] at passed keeps
      cases passed
      have coherent := keeps.finalState.1
      exact ⟨coherent.tidy.forest, coherent.inside⟩
  | error error state =>
      rw [outcome] at passed
      cases passed

/-! ## All views agree -/

/--
Every handle shows its own history, however the handles branch.  The kinds of
a checked function are the same whether they are listed, asked for by name,
printed, or read in an arena that earlier readings have changed.
-/
theorem views_agree :
    (∀ insertions : List (Insertion α),
      List.Forall₂ Scope.Shows
        (Scope.handles insertions) (Scope.histories insertions)) ∧
    (∀ checked : Checked, checked.ViewsAgree) ∧
    (∀ checked : Checked, checked.Readable →
      Arena.Reads checked.readKinds checked.arena checked.kinds ∧
        ∀ name,
          Arena.Reads (checked.readKind? name) checked.arena
            (checked.kindOf? name)) ∧
    ∀ (code : Function) (allowUnresolved : Bool) (checked : Checked),
      code.check allowUnresolved = .ok checked → checked.Readable := by
  refine ⟨fun insertions => ?_, Checked.viewsAgree, ?_, ?_⟩
  · exact (Scope.toList_handles insertions).imp fun _ _ => Scope.shows
  · intro checked readable
    exact ⟨readable.reads_kinds, readable.reads_kind?⟩
  · intro code allowUnresolved checked passed
    exact Function.readable_of_check passed

/--
Two handles made of one, the first of which hides a name, and a function that
declares a parameter once more.
-/
theorem views_agree_branching :
    let insertions : List (Insertion Nat) :=
      [⟨0, "a", 0⟩, ⟨1, "b", 1⟩, ⟨2, "a", 2⟩, ⟨1, "c", 3⟩]
    let code : Function :=
      ⟨⟨1, 1⟩, "f", [⟨⟨1, 6⟩, ["a"], some ⟨⟨1, 9⟩, "int"⟩⟩], [],
        [ .decl ⟨2, 1⟩ [⟨⟨2, 1⟩, ["b"], none⟩] (some (.var ⟨2, 6⟩ "a")),
          .decl ⟨3, 1⟩ [⟨⟨3, 1⟩, ["a"], none⟩] none ]⟩
    Scope.histories insertions =
        [[], [("a", 0)], [("a", 0), ("b", 1)],
          [("a", 0), ("b", 1), ("a", 2)], [("a", 0), ("c", 3)]] ∧
      (Scope.handles insertions).map Scope.visible =
        [[], [("a", 0)], [("a", 0), ("b", 1)],
          [("b", 1), ("a", 2)], [("a", 0), ("c", 3)]] ∧
      List.Forall₂ Scope.Shows
        (Scope.handles insertions) (Scope.histories insertions) ∧
      ∃ checked,
        code.check true = .ok checked ∧
          checked.kinds = [("b", .int), ("a", .unknown)] ∧
          checked.ViewsAgree ∧
          Arena.Reads checked.readKinds checked.arena checked.kinds := by
  intro insertions code
  rcases views_agree (α := Nat) with ⟨shows, agree, reads, readable⟩
  have passed : ∃ checked, code.check true = .ok checked ∧
      checked.kinds = [("b", .int), ("a", .unknown)] :=
    ⟨_, rfl, by decide⟩
  rcases passed with ⟨checked, passed, kinds⟩
  have readsAll := (reads checked (readable code true checked passed)).1
  refine ⟨by decide, by decide, shows insertions, ?_⟩
  exact ⟨checked, passed, kinds, agree checked, readsAll⟩

end Sprig
