import Mathlib.Data.List.Dedup
import Mathlib.Tactic.SplitIfs
import Sprig.Scope

/-!
# Scopes as lists

A scope shows its bindings newest first.  Read the other way round they are in
the order of declaration, and a binding is visible when no later one has its
name.  `unshadowed` keeps such items of any list, and a scope's `visible` is
that selection of its bindings.  `Newest` tells the same items by their
indices in the whole list.
-/

namespace Sprig

variable {α β : Type}

/-- The items that no later item of the same key shadows. -/
def unshadowed (key : α → String) : List α → List α
  | [] => []
  | first :: others =>
      if others.any fun other => key other = key first then
        unshadowed key others
      else
        first :: unshadowed key others

/-- Which items are shadowed is a matter of their keys alone. -/
theorem unshadowed_map
    (key : β → String)
    (change : α → β)
    (items : List α) :
    unshadowed key (items.map change) =
      (unshadowed (fun item => key (change item)) items).map change := by
  induction items with
  | nil =>
      rfl
  | cons first others ih =>
      rw [List.map_cons, unshadowed, unshadowed, List.any_map, ih]
      simp only [Function.comp_def]
      split
      · rfl
      · rw [List.map_cons]

/-- The keys of what is left are the distinct keys, each at its last place. -/
theorem map_unshadowed
    (key : α → String)
    (items : List α) :
    (unshadowed key items).map key = (items.map key).dedup := by
  induction items with
  | nil =>
      rfl
  | cons first others ih =>
      rw [unshadowed, List.map_cons, List.dedup_cons]
      have later : (others.any fun other => key other = key first) = true ↔
          key first ∈ others.map key := by
        simp only [List.any_eq_true, decide_eq_true_eq, List.mem_map]
      simp only [later]
      split
      · exact ih
      · rw [List.map_cons, ih]

theorem unshadowed_subset
    (key : α → String)
    (items : List α) :
    ∀ item ∈ unshadowed key items, item ∈ items := by
  induction items with
  | nil =>
      exact fun _ member => member
  | cons first others ih =>
      intro item member
      rw [unshadowed] at member
      split at member
      · exact .tail _ (ih item member)
      · rcases List.mem_cons.1 member with rfl | member
        · exact .head _
        · exact .tail _ (ih item member)

/-- The item at an index, which no later item of its key shadows. -/
structure Newest
    (key : α → String)
    (items : List α)
    (index : Nat)
    (item : α) : Prop where
  listed : items[index]? = some item
  last : ∀ later other, index < later → items[later]? = some other →
    key other ≠ key item

/-- The first item is the newest of its key if no other item has the key. -/
theorem newest_cons_zero
    {key : α → String}
    {first item : α}
    {others : List α} :
    Newest key (first :: others) 0 item ↔
      item = first ∧ (others.any fun other => key other = key first) = false := by
  constructor
  · rintro ⟨listed, last⟩
    simp only [List.getElem?_cons_zero, Option.some.injEq] at listed
    subst listed
    refine ⟨rfl, ?_⟩
    simp only [List.any_eq_false, decide_eq_true_eq]
    intro other member
    rcases List.mem_iff_getElem?.1 member with ⟨index, found⟩
    exact last (index + 1) other (Nat.succ_pos index) found
  · rintro ⟨rfl, fresh⟩
    simp only [List.any_eq_false, decide_eq_true_eq] at fresh
    refine ⟨rfl, fun later other behind found => ?_⟩
    cases later with
    | zero =>
        cases behind
    | succ later =>
        exact fresh other (List.mem_of_getElem? found)

theorem newest_cons_succ
    {key : α → String}
    {first item : α}
    {others : List α}
    {index : Nat} :
    Newest key (first :: others) (index + 1) item ↔
      Newest key others index item := by
  constructor
  · rintro ⟨listed, last⟩
    refine ⟨listed, fun later other behind found => ?_⟩
    exact last (later + 1) other (Nat.succ_lt_succ behind) found
  · rintro ⟨listed, last⟩
    refine ⟨listed, fun later other behind found => ?_⟩
    cases later with
    | zero =>
        cases behind
    | succ later =>
        exact last later other (Nat.lt_of_succ_lt_succ behind) found

/-- The newest item that passes a test with the least index, or none passes. -/
inductive FindsNewest
    (key : α → String) (test : α → Bool) (items : List α) :
    Option α → Prop where
  | found
      {index : Nat} {item : α}
      (newest : Newest key items index item)
      (passes : test item = true)
      (least : ∀ other later, Newest key items other later →
        test later = true → index ≤ other) :
      FindsNewest key test items (some item)
  | absent
      (fails : ∀ index item, Newest key items index item →
        test item = false) :
      FindsNewest key test items none

/-- A first item that is shadowed or fails the test is passed over. -/
theorem FindsNewest.behind
    {key : α → String}
    {test : α → Bool}
    {first : α}
    {others : List α}
    {result : Option α}
    (finds : FindsNewest key test others result)
    (passed : ∀ item, Newest key (first :: others) 0 item →
      test item = false) :
    FindsNewest key test (first :: others) result := by
  cases finds with
  | found newest passes least =>
      refine .found (newest_cons_succ.2 newest) passes ?_
      intro other later newest passes
      cases other with
      | zero =>
          rw [passed later newest] at passes
          cases passes
      | succ other =>
          exact Nat.succ_le_succ
            (least other later (newest_cons_succ.1 newest) passes)
  | absent fails =>
      apply FindsNewest.absent
      intro index item newest
      cases index with
      | zero =>
          exact passed item newest
      | succ index =>
          exact fails index item (newest_cons_succ.1 newest)

theorem findsNewest_unshadowed
    (key : α → String)
    (test : α → Bool)
    (items : List α) :
    FindsNewest key test items ((unshadowed key items).find? test) := by
  induction items with
  | nil =>
      apply FindsNewest.absent
      rintro index item ⟨listed, -⟩
      cases listed
  | cons first others ih =>
      rw [unshadowed]
      split_ifs with shadowed
      · apply ih.behind
        intro item newest
        have fresh := (newest_cons_zero.1 newest).2
        rw [shadowed] at fresh
        cases fresh
      · rw [Bool.not_eq_true] at shadowed
        cases passes : test first with
        | true =>
            rw [List.find?_cons_of_pos passes]
            apply FindsNewest.found (newest_cons_zero.2 ⟨rfl, shadowed⟩) passes
            intro other _ _ _
            exact Nat.zero_le other
        | false =>
            rw [List.find?_cons_of_neg (by simp [passes])]
            apply ih.behind
            intro item newest
            rw [(newest_cons_zero.1 newest).1, passes]

/-- What is left is listed by its index in the whole list, the least first. -/
theorem exists_ages_unshadowed
    (key : α → String)
    (items : List α) :
    ∃ ages : List Nat,
      ages.Pairwise (· < ·) ∧
        List.Forall₂ (Newest key items) ages (unshadowed key items) := by
  induction items with
  | nil =>
      exact ⟨[], .nil, .nil⟩
  | cons first others ih =>
      rcases ih with ⟨ages, ascending, newest⟩
      have ascendingBehind : (ages.map Nat.succ).Pairwise (· < ·) :=
        ascending.map Nat.succ fun _ _ => Nat.succ_lt_succ
      have newestBehind :
          List.Forall₂ (Newest key (first :: others)) (ages.map Nat.succ)
            (unshadowed key others) :=
        List.forall₂_map_left_iff.2
          (newest.imp fun _ _ => newest_cons_succ.2)
      rw [unshadowed]
      split_ifs with shadowed
      · exact ⟨ages.map Nat.succ, ascendingBehind, newestBehind⟩
      · rw [Bool.not_eq_true] at shadowed
        have newestHere := newest_cons_zero.2 ⟨rfl, shadowed⟩
        refine ⟨0 :: ages.map Nat.succ, .cons ?_ ascendingBehind,
          .cons newestHere newestBehind⟩
        rw [List.forall_mem_map]
        exact fun age _ => Nat.succ_pos age

/-- One more item shadows the earlier items of its key. -/
theorem unshadowed_append_singleton
    (key : α → String)
    (items : List α)
    (last : α) :
    unshadowed key (items ++ [last]) =
      (unshadowed key items).filter (fun item => key item ≠ key last) ++
        [last] := by
  induction items with
  | nil =>
      rfl
  | cons first others ih =>
      rw [List.cons_append, unshadowed, unshadowed, ih, List.any_append,
        List.any_cons, List.any_nil, Bool.or_false]
      by_cases later : (others.any fun other => key other = key first) = true
      · rw [later, Bool.true_or, if_pos rfl, if_pos rfl]
      · rw [Bool.not_eq_true] at later
        rw [later, Bool.false_or, if_neg Bool.false_ne_true]
        by_cases same : key last = key first
        · simp [same]
        · have other : key first ≠ key last := Ne.symm same
          simp [same, other]

namespace Scope

variable (scope : Scope α)

/-- A look-up finds the newest binding of its name. -/
theorem get?_eq_find? (name : String) :
    scope.get? name =
      (scope.toList.find? fun binding => binding.1 = name).map Prod.snd := by
  induction scope with
  | empty =>
      rfl
  | bind outer bound value ih =>
      rw [get?, toList, List.find?_cons]
      by_cases same : bound = name
      · simp [same]
      · simp [same, ih]

/-- The bindings, newest first, answer for a name as the scope does. -/
theorem lookup_toList (name : String) :
    scope.toList.lookup name = scope.get? name := by
  induction scope with
  | empty =>
      rfl
  | bind outer bound value ih =>
      rw [toList, List.lookup_cons, get?, ih]
      by_cases same : bound = name
      · subst same
        rw [beq_self_eq_true, if_pos rfl]
      · rw [beq_false_of_ne (Ne.symm same), if_neg same]

theorem firstOccurrences_eq
    (bindings : List (String × α))
    (seen : List String) :
    firstOccurrences seen bindings =
      ((unshadowed Prod.fst bindings.reverse).filter
        fun binding => !seen.contains binding.1).reverse := by
  induction bindings generalizing seen with
  | nil =>
      rfl
  | cons first others ih =>
      rcases first with ⟨name, value⟩
      rw [List.reverse_cons, unshadowed_append_singleton, List.filter_append,
        List.filter_filter, List.reverse_append, firstOccurrences]
      by_cases before : name ∈ seen
      · rw [if_pos (List.contains_iff_mem.2 before), ih,
          List.filter_cons_of_neg (by simp [before])]
        congr 1
        apply List.filter_congr
        intro binding _
        by_cases same : binding.1 = name
        · simp [same, before]
        · simp [same]
      · rw [if_neg (mt List.contains_iff_mem.1 before), ih,
          List.filter_cons_of_pos (by simp [before])]
        congr 2
        apply List.filter_congr
        intro binding _
        simp [Bool.and_comm]

/-- The visible bindings are those that no later binding shadows. -/
theorem visible_eq_unshadowed :
    scope.visible = unshadowed Prod.fst scope.toList.reverse := by
  rw [visible, firstOccurrences_eq, List.reverse_reverse]
  simp

variable {scope} in
theorem mem_of_mem_visible
    {binding : String × α}
    (visible : binding ∈ scope.visible) :
    binding ∈ scope.toList := by
  rw [visible_eq_unshadowed] at visible
  exact List.mem_reverse.1 (unshadowed_subset _ _ binding visible)

/-- A name that is bound once more moves behind the other visible names. -/
theorem visible_insert (name : String) (value : α) :
    (scope.insert name value).visible =
      scope.visible.filter (fun binding => binding.1 ≠ name) ++
        [(name, value)] := by
  rw [visible_eq_unshadowed, toList_insert, List.reverse_cons,
    unshadowed_append_singleton, ← visible_eq_unshadowed]

/-- Each bound name is visible once. -/
theorem names_visible :
    scope.visible.map Prod.fst =
      (scope.toList.reverse.map Prod.fst).dedup := by
  rw [visible_eq_unshadowed, map_unshadowed]

/-- Without the bindings of one name the others are found as before. -/
theorem lookup_filter_ne
    (bindings : List (String × α))
    (bound name : String) :
    (bindings.filter fun binding => binding.1 ≠ bound).lookup name =
      if bound = name then none else bindings.lookup name := by
  induction bindings with
  | nil =>
      simp
  | cons first others ih =>
      rcases first with ⟨other, value⟩
      by_cases removed : other = bound
      · rw [List.filter_cons_of_neg (by simp [removed]), ih, removed,
          List.lookup_cons]
        split_ifs with same
        · rfl
        · rw [beq_false_of_ne (Ne.symm same)]
      · rw [List.filter_cons_of_pos (by simp [removed]), List.lookup_cons,
          List.lookup_cons, ih]
        cases found : name == other with
        | true =>
            have kept : bound ≠ name := by
              rw [beq_iff_eq.1 found]
              exact Ne.symm removed
            rw [if_neg kept, if_neg kept]
        | false =>
            rfl

/-- The visible bindings answer for a name as the scope does. -/
theorem lookup_visible (name : String) :
    scope.visible.lookup name = scope.get? name := by
  induction scope with
  | empty =>
      rfl
  | bind outer bound value ih =>
      rw [← insert, visible_insert, List.lookup_append, lookup_filter_ne, ih,
        get?_insert, List.lookup_cons, List.lookup_nil]
      by_cases same : bound = name
      · subst same
        rw [if_pos rfl, if_pos rfl, beq_self_eq_true]
        rfl
      · rw [if_neg same, if_neg same, beq_false_of_ne (Ne.symm same),
          Option.or_none]

end Scope

end Sprig
