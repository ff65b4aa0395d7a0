import Mathlib.Logic.Function.Basic
import Sprig.Parser.Grammar

/-!
# Traits that all readers have

A reader is made of a few steps, which look at what comes next, pass some of
it or fail, and of sequences of such steps.  A `Trait` is a property of readers
that sequences keep and that these steps have.  Every reader of the grammar has
every trait, so what is to be shown of all readers needs to be shown of the
steps only.

What a reader of the grammar may say to be missing is listed in `expectations`.
-/

namespace Sprig

namespace Parser

/-- What a reader of the grammar may say to be missing. -/
def expectations : List String :=
  [ "'fn'", "function name", "'('", "identifier", "':'", "type", "')'",
    "'\x7b'", "statement", "expression", "'=' or ':'", "'\x7d'",
    "end of input" ]

/-- An item behind a comma, if a comma comes next. -/
def commaItem {α : Type} (item : Parser α) : Parser (Option α) := do
  if ← accept "," then
    return some (← item)
  else
    return none

/-- A property of readers that sequences keep and that their steps have. -/
structure Trait where
  Holds : ∀ {α : Type}, Parser α → Prop
  holds_pure : ∀ {α : Type} (value : α), Holds (pure value : Parser α)
  holds_bind : ∀ {α β : Type} {action : Parser α} {next : α → Parser β},
    Holds action → (∀ value, Holds (next value)) → Holds (action >>= next)
  holds_get : Holds (get : Parser Cursor)
  holds_skipBlanks : Holds skipBlanks
  holds_consume : Holds consume
  holds_run : ∀ class? : Char → Bool, Holds (run class?)
  holds_failExpecting : ∀ {α : Type}, ∀ what ∈ expectations,
    Holds (failExpecting what : Parser α)
  holds_callStatement : ∀ {α : Type} (pos : Pos),
    Holds (throw ⟨.callStatement, pos⟩ : Parser α)
  holds_stalled : ∀ {α : Type} (step : Parser (Option α)),
    Holds (repeated step 0)

namespace Trait

variable {α : Type}
variable (trait : Trait)

theorem holds_ite
    {condition : Prop}
    [Decidable condition]
    {positive negative : Parser α}
    (first : trait.Holds positive)
    (second : trait.Holds negative) :
    trait.Holds (if condition then positive else negative) := by
  split
  · exact first
  · exact second

theorem holds_discard
    {action : Parser α}
    (holds : trait.Holds action) :
    trait.Holds (discard action) := by
  rw [Functor.discard, map_const, Function.comp_apply, ← bind_pure_comp]
  exact trait.holds_bind holds fun _ => trait.holds_pure _

/-! ## Tokens -/

/-- What is read off the cursor behind the blanks. -/
theorem holds_behindBlanks (view : Cursor → α) :
    trait.Holds (do skipBlanks; return view (← get)) :=
  trait.holds_bind trait.holds_skipBlanks fun _ =>
    trait.holds_bind trait.holds_get fun _ => trait.holds_pure _

theorem holds_peek : trait.Holds peek :=
  trait.holds_bind trait.holds_get fun _ => trait.holds_pure _

theorem holds_here : trait.Holds here :=
  trait.holds_behindBlanks Cursor.pos

theorem holds_atEnd : trait.Holds atEnd :=
  trait.holds_behindBlanks fun cursor => cursor.rest.isEmpty

theorem holds_atSymbol (symbol : String) : trait.Holds (atSymbol symbol) :=
  trait.holds_behindBlanks fun cursor => cursor.atSymbol symbol.toList

theorem holds_expecting (what : String) : trait.Holds (expecting what) :=
  trait.holds_behindBlanks fun cursor =>
    (⟨.expected what cursor.lookahead, cursor.pos⟩ : SyntaxError)

theorem holds_accept (symbol : String) : trait.Holds (accept symbol) := by
  have consumeAll (chars : List Char) :
      trait.Holds (chars.forM fun _ => discard consume) := by
    induction chars with
    | nil =>
        exact trait.holds_pure _
    | cons char chars ih =>
        exact trait.holds_bind (trait.holds_discard trait.holds_consume)
          fun _ => ih
  exact trait.holds_bind (trait.holds_atSymbol symbol) fun _ =>
    trait.holds_ite
      (trait.holds_bind (consumeAll _) fun _ => trait.holds_pure _)
      (trait.holds_pure _)

theorem holds_ident? : trait.Holds ident? :=
  trait.holds_bind trait.holds_skipBlanks fun _ =>
  trait.holds_bind trait.holds_peek fun _ =>
    trait.holds_ite
      (trait.holds_bind (trait.holds_run _) fun _ => trait.holds_pure _)
      (trait.holds_pure _)

theorem holds_numeral? : trait.Holds numeral? :=
  trait.holds_bind trait.holds_skipBlanks fun _ =>
  trait.holds_bind (trait.holds_run _) fun _ =>
    trait.holds_ite (trait.holds_pure _) (trait.holds_pure _)

theorem holds_require
    {symbol : String}
    (fails : trait.Holds (failExpecting ("'" ++ symbol ++ "'") : Parser Unit)) :
    trait.Holds (require symbol) :=
  trait.holds_bind (trait.holds_accept symbol) fun _ =>
    trait.holds_ite (trait.holds_pure _) fails

theorem holds_ident
    {what : String}
    (fails : trait.Holds (failExpecting what : Parser String)) :
    trait.Holds (ident what) := by
  refine trait.holds_bind trait.holds_ident? fun found => ?_
  cases found with
  | some name =>
      exact trait.holds_pure name
  | none =>
      exact fails

/-! ## Loops -/

theorem holds_repeated
    {step : Parser (Option α)}
    (holds : trait.Holds step)
    (rounds : Nat) :
    trait.Holds (repeated step rounds) := by
  induction rounds with
  | zero =>
      exact trait.holds_stalled step
  | succ rounds ih =>
      refine trait.holds_bind holds fun found => ?_
      cases found with
      | none =>
          exact trait.holds_pure []
      | some result =>
          exact trait.holds_bind ih fun _ => trait.holds_pure _

theorem holds_many
    {step : Parser (Option α)}
    (holds : trait.Holds step) :
    trait.Holds (many step) :=
  trait.holds_bind trait.holds_get fun cursor =>
    trait.holds_repeated holds (cursor.rest.length + 1)

theorem holds_commaItem
    {item : Parser α}
    (holds : trait.Holds item) :
    trait.Holds (commaItem item) :=
  trait.holds_bind (trait.holds_accept _) fun _ =>
    trait.holds_ite
      (trait.holds_bind holds fun _ => trait.holds_pure _)
      (trait.holds_pure _)

theorem holds_afterCommas
    {item : Parser α}
    (holds : trait.Holds item) :
    trait.Holds (afterCommas item) :=
  trait.holds_many (trait.holds_commaItem holds)

/-! ## The grammar -/

theorem holds_typeRef : trait.Holds typeRef :=
  trait.holds_bind trait.holds_here fun _ =>
  trait.holds_bind
    (trait.holds_ident (trait.holds_failExpecting _ (by decide))) fun _ =>
      trait.holds_pure _

theorem holds_name : trait.Holds (ident "identifier") :=
  trait.holds_ident (trait.holds_failExpecting _ (by decide))

theorem holds_idents (first : String) : trait.Holds (idents first) :=
  trait.holds_bind (trait.holds_afterCommas trait.holds_name) fun _ =>
    trait.holds_pure _

theorem holds_decl : trait.Holds decl :=
  trait.holds_bind trait.holds_here fun _ =>
  trait.holds_bind trait.holds_name fun first =>
  trait.holds_bind (trait.holds_idents first) fun _ =>
  trait.holds_bind
    (trait.holds_require (trait.holds_failExpecting _ (by decide))) fun _ =>
  trait.holds_bind trait.holds_typeRef fun _ => trait.holds_pure _

theorem holds_decls (first : Decl) : trait.Holds (decls first) :=
  trait.holds_bind (trait.holds_afterCommas trait.holds_decl) fun _ =>
    trait.holds_pure _

theorem holds_atom : trait.Holds atom := by
  refine trait.holds_bind trait.holds_here fun pos => ?_
  refine trait.holds_bind trait.holds_numeral? fun number => ?_
  cases number with
  | some text =>
      exact trait.holds_pure _
  | none =>
      refine trait.holds_bind trait.holds_ident? fun found => ?_
      cases found with
      | some name =>
          exact trait.holds_pure _
      | none =>
          exact trait.holds_failExpecting _ (by decide)

theorem holds_expr (prec : Int) : trait.Holds (expr prec) :=
  trait.holds_bind trait.holds_atom fun _ =>
    trait.holds_ite (trait.holds_pure _) <|
      trait.holds_bind (trait.holds_atSymbol _) fun _ =>
        trait.holds_ite
          (trait.holds_bind (trait.holds_afterCommas trait.holds_atom)
            fun _ => trait.holds_pure _)
          (trait.holds_pure _)

theorem holds_initializer? : trait.Holds initializer? :=
  trait.holds_bind (trait.holds_accept _) fun _ =>
    trait.holds_ite
      (trait.holds_bind (trait.holds_expr _) fun _ => trait.holds_pure _)
      (trait.holds_pure _)

theorem holds_declStmt (pos : Pos) (names : List String) :
    trait.Holds (declStmt pos names) :=
  trait.holds_bind (trait.holds_atSymbol _) fun _ =>
    trait.holds_ite
      (trait.holds_bind trait.holds_initializer? fun _ => trait.holds_pure _)
      (trait.holds_bind trait.holds_typeRef fun _ =>
        trait.holds_bind (trait.holds_decls _) fun _ =>
        trait.holds_bind trait.holds_initializer? fun _ => trait.holds_pure _)

theorem holds_namesStmt (pos : Pos) (first : String) :
    trait.Holds (namesStmt pos first) :=
  trait.holds_bind (trait.holds_idents first) fun names =>
  trait.holds_bind (trait.holds_atSymbol _) fun _ =>
    trait.holds_ite (trait.holds_callStatement pos) <|
      trait.holds_bind (trait.holds_accept _) fun _ =>
        trait.holds_ite
          (trait.holds_bind (trait.holds_expr _) fun _ => trait.holds_pure _) <|
          trait.holds_bind (trait.holds_accept _) fun _ =>
            trait.holds_ite (trait.holds_declStmt pos names)
              (trait.holds_failExpecting _ (by decide))

theorem holds_beginsReturn (word : String) :
    trait.Holds (beginsReturn word) :=
  trait.holds_ite
    (trait.holds_bind (trait.holds_atSymbol _) fun _ => trait.holds_pure _)
    (trait.holds_pure _)

theorem holds_stmt : trait.Holds stmt :=
  trait.holds_bind trait.holds_here fun pos =>
  trait.holds_bind
    (trait.holds_ident (trait.holds_failExpecting _ (by decide))) fun first =>
  trait.holds_bind (trait.holds_beginsReturn first) fun _ =>
    trait.holds_ite
      (trait.holds_bind (trait.holds_expr _) fun _ => trait.holds_pure _)
      (trait.holds_namesStmt pos first)

theorem holds_params : trait.Holds params :=
  trait.holds_bind (trait.holds_atSymbol _) fun _ =>
    trait.holds_ite (trait.holds_pure _) <|
      trait.holds_bind trait.holds_decl fun first => trait.holds_decls first

theorem holds_rets : trait.Holds rets :=
  trait.holds_bind (trait.holds_accept _) fun _ =>
    trait.holds_ite
      (trait.holds_bind trait.holds_typeRef fun _ =>
        trait.holds_bind (trait.holds_afterCommas trait.holds_typeRef)
          fun _ => trait.holds_pure _)
      (trait.holds_pure _)

theorem holds_bodyStep : trait.Holds bodyStep :=
  trait.holds_bind (trait.holds_accept _) fun _ =>
    trait.holds_ite (trait.holds_pure _) <|
      trait.holds_bind trait.holds_atEnd fun _ =>
        trait.holds_ite (trait.holds_failExpecting _ (by decide)) <|
          trait.holds_bind trait.holds_stmt fun _ => trait.holds_pure _

/-- Every trait of the steps is one of the whole parser. -/
theorem holds_function : trait.Holds function := by
  have symbol (mark : String) (listed : "'" ++ mark ++ "'" ∈ expectations) :
      trait.Holds (require mark) :=
    trait.holds_require (trait.holds_failExpecting _ listed)
  refine trait.holds_bind trait.holds_here fun pos => ?_
  refine trait.holds_bind (symbol "fn" (by decide)) fun _ => ?_
  refine trait.holds_bind
    (trait.holds_ident (trait.holds_failExpecting _ (by decide)))
    fun name => ?_
  refine trait.holds_bind (symbol "(" (by decide)) fun _ => ?_
  refine trait.holds_bind trait.holds_params fun groups => ?_
  refine trait.holds_bind (symbol ")" (by decide)) fun _ => ?_
  refine trait.holds_bind trait.holds_rets fun types => ?_
  refine trait.holds_bind (symbol "\x7b" (by decide)) fun _ => ?_
  refine trait.holds_bind (trait.holds_many trait.holds_bodyStep)
    fun body => ?_
  refine trait.holds_bind trait.holds_atEnd fun _ => ?_
  exact trait.holds_ite (trait.holds_pure _)
    (trait.holds_failExpecting _ (by decide))

end Trait

end Parser

end Sprig
