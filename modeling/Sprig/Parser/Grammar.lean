import Sprig.Parser.Token
import Sprig.Syntax.Basic

/-!
# The grammar

    function  = "fn" name "(" [decls] ")" ["->" type {"," type}] "{" {stmt} "}"
    decls     = decl {"," decl}
    decl      = name {"," name} ":" type
    stmt      = "return" values | names "=" values | names ":" declared
    names     = name {"," name}
    declared  = "=" values | type {"," decl} ["=" values]
    values    = atom {"," atom}
    atom      = number | name

Statements have no separator; each ends where it cannot go on.  The word
`return` begins a return statement unless a parenthesis follows it.  A list
of names that a parenthesis follows would be a call, and there are no calls.
-/

namespace Sprig

namespace Parser

/-- The name of a type. -/
def typeRef : Parser TypeRef := do
  let pos ← here
  let name ← ident "type"
  return ⟨pos, name⟩

/-- The names of a list whose first name has been read. -/
def idents (first : String) : Parser (List String) := do
  let others ← afterCommas (ident "identifier")
  return first :: others

/-- Names with their annotation. -/
def decl : Parser Decl := do
  let pos ← here
  let first ← ident "identifier"
  let names ← idents first
  require ":"
  let type ← typeRef
  return ⟨pos, names, some type⟩

/-- The declarations of a list whose first one has been read. -/
def decls (first : Decl) : Parser (List Decl) := do
  let others ← afterCommas decl
  return first :: others

/-- A number or a name. -/
def atom : Parser Expr := do
  let pos ← here
  match ← numeral? with
  | some text => return .intLit pos text
  | none =>
    match ← ident? with
    | some name => return .var pos name
    | none => failExpecting "expression"

/-- The least precedence at which commas build a tuple. -/
def tuplePrec : Int := 1

/-- An atom, and at tuple precedence as many more as commas announce. -/
def expr (prec : Int) : Parser Expr := do
  let first ← atom
  if prec < tuplePrec then
    return first
  else if ← atSymbol "," then
    let others ← afterCommas atom
    return .tuple first.pos (first :: others)
  else
    return first

/-- The values after an equals sign, if there is one. -/
def initializer? : Parser (Option Expr) := do
  if ← accept "=" then
    let value ← expr tuplePrec
    return some value
  else
    return none

/--
A declaration whose names and colon have been read.  Without a type every
name is declared on its own and the initializer is needed.
-/
def declStmt (pos : Pos) (names : List String) : Parser Stmt := do
  if ← atSymbol "=" then
    let value ← initializer?
    return .decl pos (names.map fun name => ⟨pos, [name], none⟩) value
  else
    let type ← typeRef
    let groups ← decls ⟨pos, names, some type⟩
    let value ← initializer?
    return .decl pos groups value

/-- A statement that begins with a list of names. -/
def namesStmt (pos : Pos) (first : String) : Parser Stmt := do
  let names ← idents first
  if ← atSymbol "(" then
    throw ⟨.callStatement, pos⟩
  else if ← accept "=" then
    let value ← expr tuplePrec
    return .assign pos names value
  else if ← accept ":" then
    declStmt pos names
  else
    failExpecting "'=' or ':'"

/-- Whether a word that has just been read begins a return statement. -/
def beginsReturn (word : String) : Parser Bool := do
  if word = "return" then
    let call ← atSymbol "("
    return !call
  else
    return false

/-- One statement. -/
def stmt : Parser Stmt := do
  let pos ← here
  let first ← ident "statement"
  if ← beginsReturn first then
    let value ← expr tuplePrec
    return .ret pos value
  else
    namesStmt pos first

/-- The parameters, up to the parenthesis that ends them. -/
def params : Parser (List Decl) := do
  if ← atSymbol ")" then
    return []
  else
    let first ← decl
    decls first

/-- The types after an arrow, if there is one. -/
def rets : Parser (List TypeRef) := do
  if ← accept "->" then
    let first ← typeRef
    let others ← afterCommas typeRef
    return first :: others
  else
    return []

/-- The next statement, or nothing at the brace that ends the body. -/
def bodyStep : Parser (Option Stmt) := do
  if ← accept "\x7d" then
    return none
  else if ← atEnd then
    failExpecting "'\x7d'"
  else
    let next ← stmt
    return some next

/-- A function, after which nothing but blanks may follow. -/
def function : Parser Function := do
  let pos ← here
  require "fn"
  let name ← ident "function name"
  require "("
  let params ← params
  require ")"
  let rets ← rets
  require "\x7b"
  let body ← many bodyStep
  if ← atEnd then
    return ⟨pos, name, params, rets, body⟩
  else
    failExpecting "end of input"

end Parser

/-- The function that a text spells, or the first fault in it. -/
def parse (source : String) : Except SyntaxError Function :=
  match Parser.function (Cursor.start source) with
  | .ok function _ => .ok function
  | .error error _ => .error error

example :
    (parse "fn f() \x7b\x7d").toOption =
      some ⟨⟨1, 1⟩, "f", [], [], []⟩ := by
  decide +kernel

end Sprig
