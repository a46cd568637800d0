import StructuralLint.Program.Stmt
import StructuralLint.Tree.Draft
import StructuralLint.Tree.Source

/-!
# From programs to drafts

Every expression and statement becomes a node with its span. Clauses, parameter lists and markers,
which a program has no span for, are put together from the tokens around them: the word `else`
between two blocks, the star before a parameter, the name after `def`.
-/

namespace StructuralLint

open Program

/-- The kind of an expression that is no more than its parts. -/
def Program.Compound.kind : Compound → Kind
  | .call => .call
  | .argument => .argument
  | .subscription => .subscription
  | .slice => .sliceItem
  | .starred => .starredExpr
  | .conditional => .conditionalExpr
  | .binding => .assignmentExpr
  | .await => .await
  | .yield => .yieldExpr
  | .binary => .binaryExpr
  | .unary => .unaryExpr
  | .comparison => .comparison
  | .tuple => .tuple
  | .list => .listLiteral
  | .set => .setLiteral
  | .dictionary => .dictionaryLiteral

/-- The kind of a comprehension. -/
def Program.Collection.kind : Collection → Kind
  | .list => .listComprehension
  | .set => .setComprehension
  | .dictionary => .dictComprehension
  | .generator => .generatorExpr

/-- The kind of a statement that is no more than its parts. -/
def Program.SimpleForm.kind : SimpleForm → Kind
  | .assignment => .assignment
  | .annotatedAssignment => .annotatedAssignment
  | .compoundAssignment => .compoundAssignment
  | .expression => .expressionStatement
  | .returnStmt => .returnStatement
  | .passStmt => .passStatement
  | .breakStmt => .breakStatement
  | .continueStmt => .continueStatement
  | .deleteStmt => .deleteStatement
  | .assertStmt => .assertStatement

namespace Draft

/-- A name that a token spells. -/
def ofName (text : String) (binds : Bool) (token : Token) : Draft :=
  ofParts (.name text binds) .empty (none, leaf token) []

/-- The end of the last draft, or `start` if there is none. -/
def endAfter (start : Position) (drafts : List Draft) : Position :=
  match drafts.getLast? with
  | some draft => draft.span.stop
  | none => start

variable (text : SourceText)

/-! ### Parameters -/

/-- A parameter. If `starred`, the star before it belongs to it. -/
def ofParameter (starred : Bool) (parameter : Parameter Draft) (default : Option Draft) : Draft :=
  let span := text.span parameter.span
  let token := text.tokenAt span.start
  let star :=
    if starred then
      (token.bind text.previous).filter fun star => star.value = "*" || star.value = "**"
    else none
  let name := token.map (ofName parameter.name true)
  ofSpan .parameter span
    (.of (star.toList.map fun star => (.star, star))
      [(.name, name.toList), (.hint, parameter.hint.toList), (.defaultValue, default.toList)])
    (plain (star.toList.map leaf) ++ playing .name name.toList
      ++ playing .hint parameter.hint.toList
      ++ playing .defaultValue default.toList)

/-- A marker between parameters. -/
def ofMarker (sign : Token) : Draft :=
  ofParts .parameter ⟨[(.star, sign)], []⟩ (none, leaf sign) []

/-- The entries of a signature with a marker after them, which is looked for after the last one. -/
def withMarker (start : Position) (sign : String) (entries : List Draft) : List Draft :=
  entries ++ ((text.tokenAfter .op (endAfter start entries) sign).map ofMarker).toList

/-- Parameters with their defaults. -/
def ofParameters (parameters : List (Parameter Draft)) (defaults : List (Option Draft)) :
    List Draft :=
  List.zipWith (ofParameter text false) parameters defaults

/-- The entries of a signature that stands after `start`. The defaults belong to the last ones of
the positional parameters. -/
def signatureEntries (parameters : Parameters Draft) (start : Position) : List Draft :=
  let positional := parameters.positionalOnly.length + parameters.regular.length
  let defaults :=
    List.replicate (positional - parameters.defaults.length) none ++ parameters.defaults.map some
  let leading :=
    ofParameters text parameters.positionalOnly (defaults.take parameters.positionalOnly.length)
  let leading := if leading.isEmpty then leading else withMarker text start "/" leading
  let entries := leading ++
    ofParameters text parameters.regular (defaults.drop parameters.positionalOnly.length)
  let entries :=
    match parameters.rest with
    | some rest => entries ++ [ofParameter text true rest none]
    | none => if parameters.keywordOnly.isEmpty then entries else withMarker text start "*" entries
  entries ++ ofParameters text parameters.keywordOnly parameters.keywordDefaults
    ++ parameters.keywordRest.toList.map fun rest => ofParameter text true rest none

/-- The parameter list of a signature that stands after `start`, if it has an entry. -/
def ofSignature (parameters : Parameters Draft) (start : Position) : Option Draft :=
  let entries := signatureEntries text parameters start
  match playing .entry entries with
  | [] => none
  | first :: rest => some (ofParts .parameterList (.of [] [(.entry, entries)]) first rest)

/-! ### Expressions -/

mutual

/-- The draft of an expression. -/
def ofExpr : Expr → Draft
  | .name span id use =>
    let span := text.span span
    ofSpan (.name id (use = .store)) span .empty
      (plain ((text.tokenAt span.start).toList.map leaf))
  | .literal span => ofSpan (.plain .literal) (text.span span) .empty []
  | .text span _ => ofSpan (.plain .stringLiteral) (text.span span) .empty []
  | .interpolated span => ofSpan (.plain .stringLiteral) (text.span span) .empty []
  | .member span object _ =>
    ofSpan (.plain .qualifiedExpr) (text.span span) .empty (plain [ofExpr object])
  | .lambda span parameters body =>
    let span := text.span span
    let signature := ofSignature text (ofParametersOf parameters) span.start
    let expression := ofExpr body
    ofSpan .lambda span
      (.of [] [(.parameters, signature.toList), (.expression, [expression])])
      (playing .parameters signature.toList ++ playing .expression [expression])
  | .comprehension span collection elements clauses =>
    ofSpan (.plain collection.kind) (text.span span) .empty
      (plain (ofExprs elements ++ ofClauses clauses))
  | .compound span form parts =>
    ofSpan (.plain form.kind) (text.span span) .empty (plain (ofExprs parts))

/-- The drafts of expressions. -/
def ofExprs : List Expr → List Draft
  | [] => []
  | expr :: rest => ofExpr expr :: ofExprs rest

/-- The draft of an expression, if there is one. -/
def ofExpr? : Option Expr → Option Draft
  | none => none
  | some expr => some (ofExpr expr)

/-- The drafts of expressions that may be missing. -/
def ofExprs? : List (Option Expr) → List (Option Draft)
  | [] => []
  | expr :: rest => ofExpr? expr :: ofExprs? rest

/-- A parameter with the draft of its type hint. -/
def ofParameterOf : Parameter Expr → Parameter Draft
  | ⟨span, name, hint⟩ => ⟨span, name, ofExpr? hint⟩

/-- Parameters with the drafts of their type hints. -/
def ofParameterListOf : List (Parameter Expr) → List (Parameter Draft)
  | [] => []
  | parameter :: rest => ofParameterOf parameter :: ofParameterListOf rest

/-- A parameter, if there is one, with the draft of its type hint. -/
def ofParameterOf? : Option (Parameter Expr) → Option (Parameter Draft)
  | none => none
  | some parameter => some (ofParameterOf parameter)

/-- A signature with the drafts of its type hints and defaults. -/
def ofParametersOf : Parameters Expr → Parameters Draft
  | ⟨positionalOnly, regular, defaults, rest, keywordOnly, keywordDefaults, keywordRest⟩ =>
    ⟨ofParameterListOf positionalOnly, ofParameterListOf regular, ofExprs defaults,
      ofParameterOf? rest, ofParameterListOf keywordOnly, ofExprs? keywordDefaults,
      ofParameterOf? keywordRest⟩

/-- The drafts of the clauses of a comprehension. -/
def ofClauses : List Clause → List Draft
  | [] => []
  | .mk target iterable conditions :: rest =>
    ofParts (.plain .compFor) .empty (none, ofExpr target)
      (plain (ofExpr iterable :: ofExprs conditions)) :: ofClauses rest

end

/-! ### Patterns -/

mutual

/-- The draft of a pattern. -/
def ofPattern : Pattern → Draft
  | .value span value =>
    ofSpan (.plain .expression) (text.span span) .empty (plain [ofExpr text value])
  | .singleton span => ofSpan (.plain .expression) (text.span span) .empty []
  | .sequence span patterns =>
    ofSpan (.plain .expression) (text.span span) .empty (plain (ofPatterns patterns))
  | .mapping span keys patterns _ =>
    ofSpan (.plain .expression) (text.span span) .empty
      (plain (ofExprs text keys ++ ofPatterns patterns))
  | .instances span type patterns _ attributePatterns =>
    ofSpan (.plain .expression) (text.span span) .empty
      (plain (ofExpr text type :: ofPatterns patterns ++ ofPatterns attributePatterns))
  | .star span _ => ofSpan (.plain .expression) (text.span span) .empty []
  | .capture span _ => ofSpan (.plain .expression) (text.span span) .empty []
  | .named span pattern _ =>
    ofSpan (.plain .expression) (text.span span) .empty (plain [ofPattern pattern])
  | .alternatives span patterns =>
    ofSpan (.plain .expression) (text.span span) .empty (plain (ofPatterns patterns))

/-- The drafts of patterns. -/
def ofPatterns : List Pattern → List Draft
  | [] => []
  | pattern :: rest => ofPattern pattern :: ofPatterns rest

end

/-! ### Statements -/

/-- The name that an import binds. A renamed one is the last of its spelling, for the module may
be spelled alike; else it is the first of the names between dots. -/
def aliasName (imported : Alias) (span : Span) : Option Draft :=
  if imported.name = "*" then none
  else match imported.asName with
    | some renamed =>
      let spelled := (text.tokensIn span).filter fun token =>
        token.type = .name && token.value = renamed
      spelled.getLast?.map (ofName renamed true)
    | none =>
      let bound := String.ofList (imported.name.toList.takeWhile (· ≠ '.'))
      (text.tokenAt span.start).map (ofName bound true)

/-- The draft of an import. -/
def ofAlias (imported : Alias) : Draft :=
  let span := text.span imported.span
  ofSpan (.plain .aliasedName) span .empty (plain (aliasName text imported span).toList)

/-- The draft of a context manager. -/
def ofWithItem (item : WithItem) : Draft :=
  ofParts (.plain .withItem) .empty (none, ofExpr text item.context)
    (plain (ofExpr? text item.target).toList)

/-- The signs before decorators. -/
def decoratorSigns (decorators : List Draft) : List Token :=
  decorators.filterMap fun decorator =>
    (text.tokenBefore decorator.span.start).filter (·.value = "@")

/-- A clause that a word after `start` opens, unless its block is empty. -/
def ofClause (form : Form) (word : String) (start : Position) (body : List Draft) :
    Option Draft :=
  match body with
  | [] => none
  | first :: rest =>
    let keyword := text.keywordIn ⟨start, first.span.start⟩ word
    match keyword with
    | some token =>
      some (ofParts form (.of [(.keyword, token)] [(.body, body)]) (none, leaf token)
        (playing .body (first :: rest)))
    | none =>
      some (ofParts form (.of [] [(.body, body)]) (some .body, first) (playing .body rest))

/-- The draft of a function definition. -/
def ofFunction (span : Span) (isAsync : Bool) (name : String) (parameters : Parameters Draft)
    (returns : Option Draft) (decorators body : List Draft) : Draft :=
  let token := text.tokenAfter .name span.start name
  let signature := ofSignature text parameters
    (match token with
      | some token => token.stop
      | none => span.start)
  let own := token.map (ofName name true)
  ofSpan (.function isAsync) span
    (.of [] [(.name, own.toList), (.parameters, signature.toList), (.body, body),
      (.decorator, decorators), (.returnHint, returns.toList)])
    (plain ((decoratorSigns text decorators).map leaf) ++ playing .decorator decorators
      ++ playing .name own.toList ++ playing .parameters signature.toList
      ++ playing .returnHint returns.toList ++ playing .body body)

/-- The draft of a class definition. -/
def ofClassDef (span : Span) (name : String) (arguments decorators body : List Draft) : Draft :=
  let own := (text.tokenAfter .name span.start name).map (ofName name true)
  ofSpan .classDef span
    (.of [] [(.name, own.toList), (.argument, arguments), (.body, body), (.decorator, decorators)])
    (plain ((decoratorSigns text decorators).map leaf) ++ playing .decorator decorators
      ++ playing .name own.toList ++ playing .argument arguments ++ playing .body body)

/-- The draft of an `if` statement. What stands in `orelse` is a further branch if it is one `if`
statement and no `else` stands before it. -/
def ofConditional (span : Span) (condition : Draft) (body : List Draft) (orelse : List Stmt)
    (otherwise : List Draft) : Draft :=
  let bodyEnd := endAfter condition.span.stop body
  let elifBranch : Option Draft :=
    match orelse, otherwise with
    | [.conditional span ..], [branch] =>
      if (text.keywordIn ⟨bodyEnd, (text.span span).start⟩ "else").isNone then some branch
      else none
    | _, _ => none
  let elseClause :=
    if elifBranch.isSome then none else ofClause text .elseClause "else" bodyEnd otherwise
  ofSpan .ifStatement span
    (.of [] [(.condition, [condition]), (.body, body), (.elifBranch, elifBranch.toList),
      (.elseClause, elseClause.toList)])
    (playing .condition [condition] ++ playing .body body ++ playing .elifBranch elifBranch.toList
      ++ playing .elseClause elseClause.toList)

/-- The draft of an `except` clause. -/
def ofHandler (span : Span) (isStar : Bool) (exception : Option Draft) (name : Option String)
    (body : List Draft) : Draft :=
  let caught := do
    let exception ← exception
    let name ← name
    let token ← text.tokenAfter .name exception.span.stop name
    return ofName name true token
  ofSpan (.exceptClause isStar) span
    (.of [] [(.exception, exception.toList), (.caught, caught.toList), (.body, body)])
    (playing .exception exception.toList ++ playing .caught caught.toList ++ playing .body body)

/-- The draft of a `try` statement. -/
def ofTry (span : Span) (body handlers orelse final : List Draft) : Draft :=
  let handled := endAfter span.start (if handlers.isEmpty then body else handlers)
  let elseClause := ofClause text .elseClause "else" handled orelse
  let finallyClause :=
    ofClause text .finallyClause "finally" (endAfter handled elseClause.toList) final
  ofSpan .tryStatement span
    (.of [] [(.body, body), (.handler, handlers), (.elseClause, elseClause.toList),
      (.finallyClause, finallyClause.toList)])
    (playing .body body ++ playing .handler handlers ++ playing .elseClause elseClause.toList
      ++ playing .finallyClause finallyClause.toList)

mutual

/-- The draft of a statement. -/
def ofStmt : Stmt → Draft
  | .simple span form parts =>
    ofSpan (.plain form.kind) (text.span span) .empty (plain (ofExprs text parts))
  | .imports span fromModule aliases =>
    ofSpan (.plain (if fromModule then .importFrom else .importName)) (text.span span) .empty
      (plain (aliases.map (ofAlias text)))
  | .scopeDeclaration span isGlobal names =>
    let span := text.span span
    let declared := (text.tokensIn span).filter fun token =>
      token.type = .name && names.contains token.value
    let names := declared.map fun token => ofName token.value false token
    ofSpan (.scopeDeclaration isGlobal) span (.of [] [(.declared, names)]) (playing .declared names)
  | .raise span exception cause =>
    let raised := (ofExpr? text exception).toList
    let cause := (ofExpr? text cause).toList
    ofSpan .raise (text.span span) (.of [] [(.expression, raised), (.cause, cause)])
      (playing .expression raised ++ playing .cause cause)
  | .conditional span test body orelse =>
    ofConditional text (text.span span) (ofExpr text test) (ofStmts body) orelse (ofStmts orelse)
  | .whileLoop span test body orelse =>
    let condition := ofExpr text test
    let body := ofStmts body
    let elseClause :=
      ofClause text .elseClause "else" (endAfter condition.span.stop body) (ofStmts orelse)
    ofSpan .whileLoop (text.span span)
      (.of [] [(.body, body), (.elseClause, elseClause.toList), (.condition, [condition])])
      (playing .condition [condition] ++ playing .body body
        ++ playing .elseClause elseClause.toList)
  | .forLoop span isAsync target iterable body orelse =>
    let target := ofExpr text target
    let iterable := ofExpr text iterable
    let body := ofStmts body
    let elseClause :=
      ofClause text .elseClause "else" (endAfter iterable.span.stop body) (ofStmts orelse)
    ofSpan (.forLoop isAsync) (text.span span)
      (.of [] [(.body, body), (.elseClause, elseClause.toList), (.target, [target]),
        (.iterable, [iterable])])
      (playing .target [target] ++ playing .iterable [iterable] ++ playing .body body
        ++ playing .elseClause elseClause.toList)
  | .tryBlock span isStar body handlers orelse final =>
    ofTry text (text.span span) (ofStmts body) (ofHandlers isStar handlers) (ofStmts orelse)
      (ofStmts final)
  | .withBlock span items body =>
    ofSpan (.plain .withStatement) (text.span span) .empty
      (plain (items.map (ofWithItem text) ++ ofStmts body))
  | .matchBlock span subject cases =>
    ofSpan (.plain .matchStatement) (text.span span) .empty
      (plain (ofExpr text subject :: ofCases cases))
  | .function span isAsync name parameters returns decorators body =>
    ofFunction text (text.span span) isAsync name (ofParametersOf text parameters)
      (ofExpr? text returns) (ofExprs text decorators) (ofStmts body)
  | .classDef span name bases keywords decorators body =>
    ofClassDef text (text.span span) name (ofExprs text bases ++ ofExprs text keywords)
      (ofExprs text decorators) (ofStmts body)

/-- The drafts of statements. -/
def ofStmts : List Stmt → List Draft
  | [] => []
  | stmt :: rest => ofStmt stmt :: ofStmts rest

/-- The drafts of `except` clauses. -/
def ofHandlers (isStar : Bool) : List Handler → List Draft
  | [] => []
  | .mk span exception name body :: rest =>
    ofHandler text (text.span span) isStar (ofExpr? text exception) name (ofStmts body)
      :: ofHandlers isStar rest

/-- The drafts of `case` blocks. -/
def ofCases : List Case → List Draft
  | [] => []
  | .mk pattern guard body :: rest =>
    ofParts (.plain .caseBlock) .empty (none, ofPattern text pattern)
      (plain ((ofExpr? text guard).toList ++ ofStmts body)) :: ofCases rest

end

end Draft

end StructuralLint
