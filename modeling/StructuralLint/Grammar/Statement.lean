import StructuralLint.Grammar.Pattern

/-!
# Reading statements

Statements are told apart by their first word. `match` is a keyword only where a block of cases
follows; elsewhere it is a name. `blockOfDepth` bounds how deep blocks nest.
-/

namespace StructuralLint.Grammar

open Program

/-! ### Simple statements -/

/-- The operators of compound assignments. -/
def assignmentOperators : List String :=
  ["+=", "-=", "*=", "@=", "/=", "%=", "&=", "|=", "^=", "<<=", ">>=", "**=", "//="]

/-- A simple statement that ends with what was read last. -/
def simple (start : Position) (form : SimpleForm) (parts : List Expr) : Reader Stmt :=
  return .simple (← spanFrom start) form parts

/-- All but the last of the sides of an assignment, as targets, and the last one. -/
def assignmentParts : List Expr → Option (List Expr)
  | [] => none
  | [value] => some [value]
  | target :: rest =>
    match target.stored, assignmentParts rest with
    | some target, some parts => some (target :: parts)
    | _, _ => none

/-- An expression statement or an assignment. -/
def assignment (inner : Inner) : Reader Stmt := do
  let start ← here
  if ← seesWord "yield" then simple start .expression [← yieldExpr inner]
  else
    let first ← starExpressions inner
    match ← peek with
    | .op ":" =>
      let target ← converted first.storedAlone
      let _ ← take
      let hint ← inner.expression
      let value ← if ← acceptOp "=" then pure [← assigned inner] else pure []
      simple start .annotatedAssignment (target :: hint :: value)
    | .op "=" =>
      let rest ← many do
        if ← acceptOp "=" then return some (← assigned inner) else return none
      match assignmentParts (first :: rest) with
      | some parts => simple start .assignment parts
      | none => failure
    | .op op =>
      if assignmentOperators.contains op then
        let target ← converted first.storedAlone
        let _ ← take
        let value ← assigned inner
        simple start .compoundAssignment [target, value]
      else simple start .expression [first]
    | _ => simple start .expression [first]

/-- Names between dots. -/
def dottedName : Reader String := do
  let first ← name
  let rest ← many do if ← acceptOp "." then return some (← name) else return none
  return ".".intercalate (first :: rest)

/-- The name after `as`, if one stands here. -/
def asName : Reader (Option String) := do
  if ← acceptWord "as" then return some (← name) else return none

/-- An imported name, read by `imported`, with the name that it gets. -/
def importedName (imported : Reader String) : Reader Alias := do
  let start ← here
  let imported ← imported
  let renamed ← asName
  return ⟨← spanFrom start, imported, renamed⟩

/-- What `from` imports from a module. -/
def importedNames : Reader (List Alias) := do
  let start ← here
  if ← acceptOp "*" then return [⟨← spanFrom start, "*", none⟩]
  else if ← acceptOp "(" then
    let first ← importedName name
    let opens : Reader Bool := return isName (← peek)
    let (rest, _) ← commaTail opens (importedName name)
    expectOp ")"
    return first :: rest
  else commaList (importedName name)

/-- An import of names from a module. -/
def importFrom : Reader Stmt := do
  let start ← here
  expectWord "from"
  let dots ← many do
    if ← acceptOp "." then return some ()
    else if ← acceptOp "..." then return some ()
    else return none
  if dots.isEmpty || isName (← peek) then
    let _ ← dottedName
  expectWord "import"
  let aliases ← importedNames
  return .imports (← spanFrom start) true aliases

/-- An expression, if one stands here. -/
def optionalExpression (inner : Inner) : Reader (Option Expr) := do
  if ← seesExpression then return some (← inner.expression) else return none

/-- The cause of an exception that is raised, if one stands here. -/
def raiseCause (inner : Inner) : Reader (Option Expr) := do
  if ← acceptWord "from" then return some (← inner.expression) else return none

/-- A simple statement. -/
def simpleStatement (inner : Inner) : Reader Stmt := do
  let start ← here
  if ← acceptWord "return" then
    let value ← if ← seesExpression then pure [← starExpressions inner] else pure []
    simple start .returnStmt value
  else if ← acceptWord "import" then
    let aliases ← commaList (importedName dottedName)
    return .imports (← spanFrom start) false aliases
  else if ← seesWord "from" then importFrom
  else if ← acceptWord "raise" then
    let exception ← optionalExpression inner
    let cause ← if exception.isSome then raiseCause inner else pure none
    return .raise (← spanFrom start) exception cause
  else if ← acceptWord "pass" then simple start .passStmt []
  else if ← acceptWord "del" then
    let target : Reader Expr := do converted (← inner.bitwiseOr).deleted
    let first ← target
    let (rest, _) ← commaTail seesExpression target
    simple start .deleteStmt (first :: rest)
  else if ← acceptWord "assert" then
    let test ← inner.expression
    let message ← if ← acceptOp "," then pure [← inner.expression] else pure []
    simple start .assertStmt (test :: message)
  else if ← acceptWord "break" then simple start .breakStmt []
  else if ← acceptWord "continue" then simple start .continueStmt []
  else if ← acceptWord "global" then
    let names ← commaList name
    return .scopeDeclaration (← spanFrom start) true names
  else if ← acceptWord "nonlocal" then
    let names ← commaList name
    return .scopeDeclaration (← spanFrom start) false names
  else assignment inner

/-- The simple statements of a line. -/
def simpleStatements (inner : Inner) : Reader (List Stmt) := do
  let first ← simpleStatement inner
  let rest ← many do
    if ← acceptOp ";" then
      if ← sees .newline then return none else return some (← simpleStatement inner)
    else return none
  expect .newline
  return first :: rest

/-! ### Compound statements -/

/-- A block after `else`, if one stands here. -/
def elseBlock (block : Reader (List Stmt)) : Reader (List Stmt) := do
  if ← acceptWord "else" then
    expectOp ":"
    block
  else return []

/-- The branches from `start` on, the first word of which has been read. Each further branch is a
statement of its own in the `orelse` of the branch before. -/
def branchesUpTo (inner : Inner) (block : Reader (List Stmt)) :
    (fuel : Nat) → (start : Position) → Reader Stmt
  | 0, _ => failure
  | fuel + 1, start => do
    let test ← named inner
    expectOp ":"
    let body ← block
    let next ← here
    let orelse ←
      if ← acceptWord "elif" then pure [← branchesUpTo inner block fuel next]
      else elseBlock block
    return .conditional (← spanFrom start) test body orelse

/-- A `for` loop whose `async`, if any, has been read. -/
def forLoop (inner : Inner) (block : Reader (List Stmt)) (start : Position) (isAsync : Bool) :
    Reader Stmt := do
  expectWord "for"
  let target ← targets inner
  expectWord "in"
  let iterable ← starExpressions inner
  expectOp ":"
  let body ← block
  let orelse ← elseBlock block
  return .forLoop (← spanFrom start) isAsync target iterable body orelse

/-- A context manager with its target. -/
def withItem (inner : Inner) : Reader WithItem := do
  let context ← inner.expression
  let target ← if ← acceptWord "as" then pure (some (← targetItem inner)) else pure none
  return ⟨context, target⟩

/-- Context managers in parentheses, up to the colon. -/
def parenthesizedItems (inner : Inner) : Reader (List WithItem) := do
  expectOp "("
  let first ← withItem inner
  let (rest, _) ← commaTail seesExpression (withItem inner)
  expectOp ")"
  expectOp ":"
  return first :: rest

/-- A `with` statement whose `async`, if any, has been read. Parentheses around all managers are
tried first; if no colon follows them, they belong to the first manager. -/
def withBlock (inner : Inner) (block : Reader (List Stmt)) (start : Position) : Reader Stmt := do
  expectWord "with"
  let items ← match ← attempt (parenthesizedItems inner) with
    | some items => pure items
    | none => do
      let items ← commaList (withItem inner)
      expectOp ":"
      pure items
  let body ← block
  return .withBlock (← spanFrom start) items body

/-- An `except` clause, if one stands here; `isStar` says which of its two forms. -/
def handler (inner : Inner) (block : Reader (List Stmt)) (isStar : Bool) :
    Reader (Option Handler) := do
  let start ← here
  if ← acceptWord "except" then
    if isStar then expectOp "*"
    let exception ←
      if isStar then some <$> inner.expression else optionalExpression inner
    let caught ← if exception.isSome then asName else pure none
    expectOp ":"
    let body ← block
    return some (.mk (← spanFrom start) exception caught body)
  else return none

/-- A `try` statement: handlers of one form, then `else` and `finally`, or `finally` alone. -/
def tryBlock (inner : Inner) (block : Reader (List Stmt)) : Reader Stmt := do
  let start ← here
  expectWord "try"
  expectOp ":"
  let body ← block
  let isStar := (← seesWord "except") && (← peekSecond) == .op "*"
  let handlers ← many (handler inner block isStar)
  let orelse ← if handlers.isEmpty then pure [] else elseBlock block
  let final ←
    if ← acceptWord "finally" then
      expectOp ":"
      block
    else if handlers.isEmpty then failure
    else pure []
  return .tryBlock (← spanFrom start) isStar body handlers orelse final

/-- What a `match` statement looks at. -/
def subject (inner : Inner) : Reader Expr := do
  let start ← here
  let first ← element inner
  if ← seesOp "," then
    let (rest, _) ← commaTail seesExpression (element inner)
    compound start .tuple (first :: rest)
  else if first.isStarred then failure
  else return first

/-- A `match` statement up to its first case. -/
def matchHeader (inner : Inner) : Reader Expr := do
  expectWord "match"
  let subject ← subject inner
  expectOp ":"
  expect .newline
  expect .indent
  if ← seesWord "case" then return subject else failure

/-- A `case` block, if one stands here. -/
def caseBlock (inner : Inner) (pattern : Reader Pattern) (block : Reader (List Stmt)) :
    Reader (Option Case) := do
  if ← acceptWord "case" then
    let pattern ← casePattern pattern
    let guard ← if ← acceptWord "if" then some <$> named inner else pure none
    expectOp ":"
    let body ← block
    return some (.mk pattern guard body)
  else return none

/-- A function definition whose `async`, if any, has been read. -/
def function (inner : Inner) (block : Reader (List Stmt)) (start : Position) (isAsync : Bool)
    (decorators : List Expr) : Reader Stmt := do
  expectWord "def"
  let id ← name
  expectOp "("
  let parameters ← signature inner .definition
  expectOp ")"
  let returns ← if ← acceptOp "->" then some <$> inner.expression else pure none
  expectOp ":"
  let body ← block
  return .function (← spanFrom start) isAsync id parameters returns decorators body

/-- A class definition. -/
def classDef (inner : Inner) (block : Reader (List Stmt)) (decorators : List Expr) :
    Reader Stmt := do
  let start ← here
  expectWord "class"
  let id ← name
  let (bases, keywords) ← if ← seesOp "(" then arguments inner else pure ([], [])
  expectOp ":"
  let body ← block
  return .classDef (← spanFrom start) id bases keywords decorators body

/-- A function or class definition after its decorators. -/
def definition (inner : Inner) (block : Reader (List Stmt)) (decorators : List Expr) :
    Reader Stmt := do
  let start ← here
  if ← seesWord "class" then classDef inner block decorators
  else if ← acceptWord "async" then function inner block start true decorators
  else function inner block start false decorators

/-- The decorators before a definition. -/
def decorators (inner : Inner) : Reader (List Expr) :=
  many do
    if ← acceptOp "@" then
      let decorator ← named inner
      expect .newline
      return some decorator
    else return none

/-- What opens with `async`. -/
def asyncStatement (inner : Inner) (block : Reader (List Stmt)) : Reader Stmt := do
  let start ← here
  expectWord "async"
  if ← seesWord "for" then forLoop inner block start true
  else if ← seesWord "with" then withBlock inner block start
  else function inner block start true []

/-- A `match` statement, or a simple statement that opens with the name `match`. -/
def matchOrSimple (inner : Inner) (pattern : Reader Pattern) (block : Reader (List Stmt)) :
    Reader (List Stmt) := do
  let start ← here
  match ← attempt (matchHeader inner) with
  | some subject =>
    let cases ← many (caseBlock inner pattern block)
    expect .dedent
    return [.matchBlock (← spanFrom start) subject cases]
  | none => simpleStatements inner

/-- The statements that the next lexeme opens: one compound statement, or the simple statements of
a line. -/
def statements (inner : Inner) (pattern : Reader Pattern) (block : Reader (List Stmt)) :
    Reader (List Stmt) := do
  let start ← here
  if ← acceptWord "if" then
    return [← branchesUpTo inner block (← get).rest.length start]
  else if ← acceptWord "while" then
    let test ← named inner
    expectOp ":"
    let body ← block
    let orelse ← elseBlock block
    return [.whileLoop (← spanFrom start) test body orelse]
  else if ← seesWord "for" then return [← forLoop inner block start false]
  else if ← seesWord "with" then return [← withBlock inner block start]
  else if ← seesWord "try" then return [← tryBlock inner block]
  else if ← seesWord "async" then return [← asyncStatement inner block]
  else if (← seesWord "def") || (← seesWord "class") then
    return [← definition inner block []]
  else if ← seesOp "@" then
    let read ← decorators inner
    return [← definition inner block read]
  else if ← seesWord "match" then matchOrSimple inner pattern block
  else simpleStatements inner

/-- The statements up to a lexeme that ends them, at least one. -/
def statementList (inner : Inner) (pattern : Reader Pattern) (block : Reader (List Stmt))
    (ending : LexemeForm) : Reader (List Stmt) := do
  let read ← many do
    if ← sees ending then return none else return some (← statements inner pattern block)
  expect ending
  return read.flatten

/-- A reader for blocks that nest at most `depth` deep: statements indented below, or the rest of
the line. -/
def blockOfDepth (inner : Inner) (pattern : Reader Pattern) : (depth : Nat) → Reader (List Stmt)
  | 0 => failure
  | depth + 1 => do
    if ← accept .newline then
      expect .indent
      statementList inner pattern (blockOfDepth inner pattern depth) .dedent
    else simpleStatements inner

/-- A whole program, in which nothing nests deeper than `depth`. -/
def program (depth : Nat) : Reader Program := do
  let inner := Inner.ofDepth depth
  let pattern := patternOfDepth inner depth
  let body ← statementList inner pattern (blockOfDepth inner pattern depth) .endMarker
  return ⟨body⟩

end Grammar

/-- Why a source text is no program. -/
inductive SourceError where
  /-- It holds a null character. -/
  | nullCharacter
  /-- The grammar refuses it. -/
  | refused
deriving DecidableEq, Repr

/-- The program that a source text writes. -/
def Program.read (source : List Char) : Except SourceError Program :=
  if source.contains '\x00' then .error .nullCharacter
  else
    match Program.lexemes? source with
    | none => .error .refused
    | some lexemes =>
      match (Grammar.program (source.length + 3)).run ⟨lexemes, ⟨1, 0⟩⟩ with
      | some (program, _) => .ok program
      | none => .error .refused

end StructuralLint
