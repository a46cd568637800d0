import StructuralLint.Grammar.Interpolation
import StructuralLint.Grammar.Reader
import StructuralLint.Grammar.Target

/-!
# Reading expressions

Each level of binding strength has a reader that is built from the next stronger one. Where an
expression nests in another one, in brackets or after an operator that binds to the right, the
readers use `Inner`, a record of readers for expressions one level deeper. `Inner.ofDepth` ties the
knot: it bounds how deep expressions nest.
-/

namespace StructuralLint.Grammar

open Program

/-- Readers for what stands inside an expression. -/
structure Inner where
  expression : Reader Expr
  disjunction : Reader Expr
  inversion : Reader Expr
  bitwiseOr : Reader Expr
  factor : Reader Expr

namespace Inner

/-- Nothing can be read. -/
def none : Inner := ⟨failure, failure, failure, failure, failure⟩

end Inner

/-- Whether an expression, possibly starred, can open with this lexeme. -/
def opensExpression : LexemeForm → Bool
  | .word text =>
    !isReserved text ||
      ["None", "True", "False", "not", "lambda", "await"].contains (String.ofList text)
  | .number _ | .literal _ _ => true
  | .op op => ["(", "[", "\x7b", "+", "-", "~", "*", "..."].contains op
  | _ => false

/-- Whether the next lexeme can open an expression. -/
def seesExpression : Reader Bool := return opensExpression (← peek)

/-- Whether a name is bound here inside an expression. -/
def seesBinding : Reader Bool := do
  if isName (← peek) then return (← peekSecond) == .op ":=" else return false

/-- Whether a clause of a comprehension stands here. -/
def seesClause : Reader Bool := do
  if ← seesWord "for" then return true
  else if ← seesWord "async" then return (← peekSecond) == keyword "for"
  else return false

/-- A compound that ends with what was read last. -/
def compound (start : Position) (form : Compound) (parts : List Expr) : Reader Expr :=
  return .compound (← spanFrom start) form parts

/-- A name that is used here. -/
def nameExpr (use : NameUse) : Reader Expr := do
  let start ← here
  let id ← name
  return .name (← spanFrom start) id use

/-- A star and the expression after it. -/
def starred (operand : Reader Expr) : Reader Expr := do
  let start ← here
  expectOp "*"
  let value ← operand
  compound start .starred [value]

/-- The target of a conversion that may fail. -/
def converted (target : Option Expr) : Reader Expr :=
  match target with
  | some target => return target
  | none => failure

/-! ### What is read the same inside and outside -/

/-- An expression, or a name bound to one. -/
def named (inner : Inner) : Reader Expr := do
  if ← seesBinding then
    let start ← here
    let target ← nameExpr .store
    expectOp ":="
    let value ← inner.expression
    compound start .binding [target, value]
  else inner.expression

/-- An element of a tuple, a list or a set. -/
def element (inner : Inner) : Reader Expr := do
  if ← seesOp "*" then starred inner.bitwiseOr else named inner

/-- An element of a tuple without brackets. -/
def starExpression (inner : Inner) : Reader Expr := do
  if ← seesOp "*" then starred inner.bitwiseOr else inner.expression

/-- What `first` opens: a tuple if a comma follows, or else `first` alone. -/
def tupleAfter (start : Position) (first : Expr) (item : Reader Expr) : Reader Expr := do
  if ← seesOp "," then
    let (rest, _) ← commaTail seesExpression item
    compound start .tuple (first :: rest)
  else return first

/-- An expression or a tuple without brackets. -/
def starExpressions (inner : Inner) : Reader Expr := do
  let start ← here
  let first ← starExpression inner
  tupleAfter start first (starExpression inner)

/-- A `yield` with what is yielded. -/
def yieldExpr (inner : Inner) : Reader Expr := do
  let start ← here
  expectWord "yield"
  if ← acceptWord "from" then
    let value ← inner.expression
    compound start .yield [value]
  else if ← seesExpression then
    let value ← starExpressions inner
    compound start .yield [value]
  else compound start .yield []

/-- The right-hand side of an assignment. -/
def assigned (inner : Inner) : Reader Expr := do
  if ← seesWord "yield" then yieldExpr inner else starExpressions inner

/-- One target before `in` or after `as`. -/
def targetItem (inner : Inner) : Reader Expr := do
  let target ← if ← seesOp "*" then starred inner.bitwiseOr else inner.bitwiseOr
  converted target.stored

/-- The targets before `in`. -/
def targets (inner : Inner) : Reader Expr := do
  let start ← here
  let first ← targetItem inner
  tupleAfter start first (targetItem inner)

/-! ### Comprehensions -/

/-- The conditions of a clause. -/
def conditions (inner : Inner) : Reader (List Expr) :=
  many do if ← acceptWord "if" then return some (← inner.disjunction) else return none

/-- The clauses of a comprehension, at least one. -/
def clauses (inner : Inner) : Reader (List Clause) := do
  let read ← many do
    if ← seesClause then
      let _ ← acceptWord "async"
      expectWord "for"
      let target ← targets inner
      expectWord "in"
      let iterable ← inner.disjunction
      return some (.mk target iterable (← conditions inner))
    else return none
  if read.isEmpty then failure else return read

/-- The rest of a comprehension whose elements have been read. -/
def comprehension (inner : Inner) (start : Position) (collection : Collection)
    (elements : List Expr) (closing : String) : Reader Expr := do
  if elements.any Expr.isStarred then failure
  let read ← clauses inner
  expectOp closing
  return .comprehension (← spanFrom start) collection elements read

/-! ### Atoms -/

/-- A whole decimal number with more digits than can be read. -/
def isTooLong (number : List Char) : Bool :=
  4300 < (number.filter Char.isDigit).length && number.all fun c => c.isDigit || c = '_'

/-- Literals in quotes that stand side by side are one. An expression in one of them makes the
whole a string with expressions. Bytes and text do not mix. -/
def strings (inner : Inner) : Reader Expr := do
  let start ← here
  let literals ← many do
    match ← peek with
    | .literal letters body =>
      let _ ← take
      return some (StringLiteral.Letters.read letters, body)
    | _ => return none
  let bytes := literals.any (·.1.bytes)
  if literals.isEmpty || (bytes && !literals.all (·.1.bytes)) then failure
  let isExpr (text : List Char) : Bool :=
    match lexemes? ('(' :: text ++ [')']) with
    | some lexemes => ((starExpressions inner).run ⟨lexemes, ⟨1, 0⟩⟩).isSome
    | none => false
  let values := literals.map fun (letters, body) =>
    if letters.interpolated then
      if Interpolation.isWellFormed isExpr letters.raw body then some [] else none
    else StringLiteral.value letters body
  if values.any (·.isNone) then failure
  let span ← spanFrom start
  if literals.any (·.1.interpolated) then return .interpolated span
  else if bytes then return .text span none
  else return .text span (some (String.ofList (values.flatMap fun value => value.getD [])))

/-- What stands in parentheses: nothing, a `yield`, a tuple, a generator or an expression that
is only grouped. -/
def parenthesized (inner : Inner) : Reader Expr := do
  let start ← here
  expectOp "("
  if ← acceptOp ")" then compound start .tuple []
  else if ← seesWord "yield" then
    let value ← yieldExpr inner
    expectOp ")"
    return value
  else
    let first ← element inner
    if ← seesOp "," then
      let (rest, _) ← commaTail seesExpression (element inner)
      expectOp ")"
      compound start .tuple (first :: rest)
    else if ← seesClause then comprehension inner start .generator [first] ")"
    else
      expectOp ")"
      if first.isStarred then failure
      return first

/-- A list or what builds one. -/
def listDisplay (inner : Inner) : Reader Expr := do
  let start ← here
  expectOp "["
  if ← acceptOp "]" then compound start .list []
  else
    let first ← element inner
    if ← seesClause then comprehension inner start .list [first] "]"
    else
      let (rest, _) ← commaTail seesExpression (element inner)
      expectOp "]"
      compound start .list (first :: rest)

/-- An entry of a dictionary: a key and its value, or a mapping to unpack. -/
def entry (inner : Inner) : Reader (Option Expr × Expr) := do
  if ← acceptOp "**" then return (none, ← inner.bitwiseOr)
  else
    let key ← inner.expression
    expectOp ":"
    return (some key, ← inner.expression)

/-- The rest of a dictionary whose first entry has been read. All keys stand before all values. -/
def dictionaryAfter (inner : Inner) (start : Position) (first : Option Expr × Expr) :
    Reader Expr := do
  let opens : Reader Bool := return (← seesExpression) || (← seesOp "**")
  let (rest, _) ← commaTail opens (entry inner)
  expectOp "\x7d"
  let entries := first :: rest
  compound start .dictionary (entries.filterMap (·.1) ++ entries.map (·.2))

/-- A dictionary or a set, or what builds one. -/
def braceDisplay (inner : Inner) : Reader Expr := do
  let start ← here
  expectOp "\x7b"
  if ← acceptOp "\x7d" then compound start .dictionary []
  else if ← seesOp "**" then dictionaryAfter inner start (← entry inner)
  else
    let binds ← seesBinding
    let first ← element inner
    if ← acceptOp ":" then
      if binds || first.isStarred then failure
      let value ← inner.expression
      if ← seesClause then comprehension inner start .dictionary [first, value] "\x7d"
      else dictionaryAfter inner start (some first, value)
    else if ← seesClause then comprehension inner start .set [first] "\x7d"
    else
      let (rest, _) ← commaTail seesExpression (element inner)
      expectOp "\x7d"
      compound start .set (first :: rest)

/-- An expression that nothing can split. -/
def atom (inner : Inner) : Reader Expr := do
  let start ← here
  match ← peek with
  | .word text =>
    if !isReserved text then nameExpr .load
    else if ["None", "True", "False"].contains (String.ofList text) then
      let _ ← take
      return .literal (← spanFrom start)
    else failure
  | .number text =>
    if isTooLong text then failure
    let _ ← take
    return .literal (← spanFrom start)
  | .literal _ _ => strings inner
  | .op "(" => parenthesized inner
  | .op "[" => listDisplay inner
  | .op "\x7b" => braceDisplay inner
  | .op "..." =>
    let _ ← take
    return .literal (← spanFrom start)
  | _ => failure

/-! ### Calls and subscriptions -/

/-- How far the arguments of a call have come: after an argument by keyword none by position may
follow, and after an unpacked mapping no unpacked sequence either. -/
inductive ArgumentPhase where
  | positional
  | keyword
  | mapping
deriving DecidableEq

/-- One argument, whether it is passed by keyword, and the phase after it. -/
def argument (inner : Inner) (phase : ArgumentPhase) :
    Reader (Bool × Expr × ArgumentPhase) := do
  let start ← here
  if ← seesOp "*" then
    if phase = .mapping then failure
    return (false, ← starred inner.expression, phase)
  else if ← acceptOp "**" then
    let value ← inner.expression
    return (true, ← compound start .argument [value], .mapping)
  else if isName (← peek) && (← peekSecond) == .op "=" then
    let _ ← name
    expectOp "="
    let value ← inner.expression
    return (true, ← compound start .argument [value],
      if phase = .mapping then .mapping else .keyword)
  else
    if phase ≠ .positional then failure
    return (false, ← named inner, phase)

/-- Whether the next lexeme can open an argument. -/
def seesArgument : Reader Bool := return (← seesExpression) || (← seesOp "**")

/-- The arguments after the first one. -/
def argumentsUpTo (inner : Inner) : (fuel : Nat) → ArgumentPhase → Reader (List (Bool × Expr))
  | 0, _ => return []
  | fuel + 1, phase => do
    if ← acceptOp "," then
      if ← seesArgument then
        let (byKeyword, value, phase) ← argument inner phase
        return (byKeyword, value) :: (← argumentsUpTo inner fuel phase)
      else return []
    else return []

/-- The arguments after `first`, up to the closing parenthesis: those by position, with unpacked
sequences, and those by keyword, with unpacked mappings. -/
def argumentsAfter (inner : Inner) (first : Bool × Expr × ArgumentPhase) :
    Reader (List Expr × List Expr) := do
  let (byKeyword, value, phase) := first
  let rest ← argumentsUpTo inner (← get).rest.length phase
  expectOp ")"
  let all := (byKeyword, value) :: rest
  return ((all.filter (!·.1)).map (·.2), (all.filter (·.1)).map (·.2))

/-- The arguments in parentheses. -/
def arguments (inner : Inner) : Reader (List Expr × List Expr) := do
  expectOp "("
  if ← acceptOp ")" then return ([], [])
  else argumentsAfter inner (← argument inner .positional)

/-- The arguments of a call. A generator that is the only argument takes the parentheses of the
call for its own. -/
def callParts (inner : Inner) : Reader (List Expr) := do
  let start ← here
  expectOp "("
  if ← acceptOp ")" then return []
  else
    let first ← argument inner .positional
    if !first.1 && (← seesClause) then
      return [← comprehension inner start .generator [first.2.1] ")"]
    else
      let (positional, byKeyword) ← argumentsAfter inner first
      return positional ++ byKeyword

/-- A part of a slice, if one stands here. -/
def slicePart (inner : Inner) : Reader (List Expr) := do
  if ← seesExpression then return [← inner.expression] else return []

/-- A slice whose first colon has been read. -/
def sliceAfter (inner : Inner) (start : Position) (lower : List Expr) : Reader Expr := do
  let upper ← slicePart inner
  let step ← if ← acceptOp ":" then slicePart inner else pure []
  compound start .slice (lower ++ upper ++ step)

/-- An index or a slice. -/
def index (inner : Inner) : Reader Expr := do
  let start ← here
  if ← seesOp "*" then starred inner.expression
  else if ← acceptOp ":" then sliceAfter inner start []
  else
    let binds ← seesBinding
    let value ← named inner
    if binds then return value
    else if ← acceptOp ":" then sliceAfter inner start [value]
    else return value

/-- The indices of a subscription. More than one are a tuple, and so is one with a star. -/
def indices (inner : Inner) : Reader Expr := do
  let start ← here
  let first ← index inner
  if (← seesOp ",") || first.isStarred then
    let opens : Reader Bool := return (← seesExpression) || (← seesOp ":")
    let (rest, _) ← commaTail opens (index inner)
    compound start .tuple (first :: rest)
  else return first

/-! ### The levels of binding strength -/

/-- An atom with members, calls and subscriptions after it. -/
def primary (inner : Inner) : Reader Expr := do
  let start ← here
  let first ← atom inner
  extend first fun object => do
    match ← peek with
    | .op "." =>
      let _ ← take
      let member ← name
      return some (.member (← spanFrom start) object member)
    | .op "(" =>
      let parts ← callParts inner
      return some (← compound start .call (object :: parts))
    | .op "[" =>
      let _ ← take
      let subscript ← indices inner
      expectOp "]"
      return some (← compound start .subscription [object, subscript])
    | _ => return none

/-- A primary, possibly awaited. -/
def awaited (inner : Inner) : Reader Expr := do
  let start ← here
  if ← acceptWord "await" then
    let value ← primary inner
    compound start .await [value]
  else primary inner

/-- A power, which binds to the right. -/
def power (inner : Inner) : Reader Expr := do
  let start ← here
  let base ← awaited inner
  if ← acceptOp "**" then
    let exponent ← inner.factor
    compound start .binary [base, exponent]
  else return base

/-- A sign before an operand. -/
def factor (inner : Inner) : Reader Expr := do
  let start ← here
  match ← peek with
  | .op op =>
    if ["+", "-", "~"].contains op then
      let _ ← take
      let operand ← inner.factor
      compound start .unary [operand]
    else power inner
  | _ => power inner

/-- Operators that bind to the left. -/
def leftBinary (operators : List String) (operand : Reader Expr) : Reader Expr := do
  let start ← here
  let first ← operand
  extend first fun left => do
    match ← peek with
    | .op op =>
      if operators.contains op then
        let _ ← take
        let right ← operand
        return some (← compound start .binary [left, right])
      else return none
    | _ => return none

/-- The operators on numbers and bits, up to the weakest. -/
def bitwiseOr (inner : Inner) : Reader Expr :=
  leftBinary ["|"] <| leftBinary ["^"] <| leftBinary ["&"] <| leftBinary ["<<", ">>"] <|
    leftBinary ["+", "-"] <| leftBinary ["*", "/", "//", "%", "@"] <| factor inner

/-- Takes a comparison operator, if one stands here. -/
def acceptComparison : Reader Bool := do
  match ← peek with
  | .op op =>
    if ["==", "!=", "<=", "<", ">=", ">"].contains op then
      let _ ← take
      return true
    else return false
  | _ =>
    if ← acceptWord "in" then return true
    else if ← acceptWord "is" then
      let _ ← acceptWord "not"
      return true
    else if ← seesWord "not" then
      if (← peekSecond) == keyword "in" then
        let _ ← take
        let _ ← take
        return true
      else return false
    else return false

/-- A chain of comparisons. -/
def comparison (inner : Inner) : Reader Expr := do
  let start ← here
  let first ← bitwiseOr inner
  let rest ← many do
    if ← acceptComparison then return some (← bitwiseOr inner) else return none
  if rest.isEmpty then return first else compound start .comparison (first :: rest)

/-- A negation. -/
def inversion (inner : Inner) : Reader Expr := do
  let start ← here
  if ← acceptWord "not" then
    let operand ← inner.inversion
    compound start .unary [operand]
  else comparison inner

/-- Operands between one logical operator. -/
def logical (word : String) (operand : Reader Expr) : Reader Expr := do
  let start ← here
  let first ← operand
  let rest ← many do
    if ← acceptWord word then return some (← operand) else return none
  if rest.isEmpty then return first else compound start .binary (first :: rest)

/-- The logical operators. -/
def disjunction (inner : Inner) : Reader Expr := logical "or" (logical "and" (inversion inner))

/-! ### Functions without a name -/

/-- Whether a parameter may be annotated, and with what the list of parameters ends. -/
structure SignatureStyle where
  annotated : Bool
  closing : String

/-- The parameters of a definition. -/
def SignatureStyle.definition : SignatureStyle := ⟨true, ")"⟩

/-- The parameters of a function without a name. -/
def SignatureStyle.lambda : SignatureStyle := ⟨false, ":"⟩

/-- A type hint, if one may stand here and does. -/
def typeHint (inner : Inner) (style : SignatureStyle) (starredHint : Bool) :
    Reader (Option Expr) := do
  if !style.annotated then return none
  else if ← acceptOp ":" then
    if starredHint then return some (← starExpression inner)
    else return some (← inner.expression)
  else return none

/-- A parameter without its default. Only the one that takes the remaining positional arguments may
have a starred type hint. -/
def parameter (inner : Inner) (style : SignatureStyle) (starredHint : Bool) :
    Reader (Parameter Expr) := do
  let start ← here
  let id ← name
  let hint ← typeHint inner style starredHint
  return ⟨← spanFrom start, id, hint⟩

/-- What has been read of a signature. -/
structure SignatureState where
  parameters : Parameters Expr
  /-- The positional-only parameters are complete. -/
  slash : Bool
  /-- A star has been read, alone or before a name. -/
  star : Bool

/-- The default of a parameter, if one stands here. -/
def defaultValue (inner : Inner) : Reader (Option Expr) := do
  if ← acceptOp "=" then return some (← inner.expression) else return none

/-- One entry of a signature; tells whether more may follow. -/
def signatureEntry (inner : Inner) (style : SignatureStyle) (state : SignatureState) :
    Reader (SignatureState × Bool) := do
  let parameters := state.parameters
  if ← acceptOp "/" then
    if state.slash || state.star || parameters.regular.isEmpty then failure
    return ({ state with
      parameters := { parameters with positionalOnly := parameters.regular, regular := [] }
      slash := true }, true)
  else if ← acceptOp "*" then
    if state.star then failure
    if ← seesOp "," then return ({ state with star := true }, true)
    else
      let rest ← parameter inner style true
      return ({ state with parameters := { parameters with rest := some rest }, star := true },
        true)
  else if ← acceptOp "**" then
    let rest ← parameter inner style false
    return ({ state with parameters := { parameters with keywordRest := some rest } }, false)
  else
    let parameter ← parameter inner style false
    let value ← defaultValue inner
    if state.star then
      return ({ state with parameters := { parameters with
        keywordOnly := parameters.keywordOnly ++ [parameter]
        keywordDefaults := parameters.keywordDefaults ++ [value] } }, true)
    else
      if value.isNone && !parameters.defaults.isEmpty then failure
      return ({ state with parameters := { parameters with
        regular := parameters.regular ++ [parameter]
        defaults := parameters.defaults ++ value.toList } }, true)

/-- The entries of a signature up to its end. -/
def signatureUpTo (inner : Inner) (style : SignatureStyle) :
    (fuel : Nat) → SignatureState → Reader SignatureState
  | 0, _ => failure
  | fuel + 1, state => do
    if ← seesOp style.closing then return state
    else
      let (state, more) ← signatureEntry inner style state
      if ← acceptOp "," then
        if more then signatureUpTo inner style fuel state
        else if ← seesOp style.closing then return state
        else failure
      else if ← seesOp style.closing then return state
      else failure

/-- The parameters before the closing lexeme. A star alone must have parameters after it. -/
def signature (inner : Inner) (style : SignatureStyle) : Reader (Parameters Expr) := do
  let state ← signatureUpTo inner style (← get).rest.length ⟨.empty, false, false⟩
  let parameters := state.parameters
  if state.star && parameters.rest.isNone && parameters.keywordOnly.isEmpty then failure
  return parameters

/-- A function without a name. -/
def lambdaExpr (inner : Inner) : Reader Expr := do
  let start ← here
  expectWord "lambda"
  let parameters ← signature inner .lambda
  expectOp ":"
  let body ← inner.expression
  return .lambda (← spanFrom start) parameters body

/-- An expression. -/
def expression (inner : Inner) : Reader Expr := do
  let start ← here
  if ← seesWord "lambda" then lambdaExpr inner
  else
    let value ← disjunction inner
    if ← acceptWord "if" then
      let test ← disjunction inner
      expectWord "else"
      let otherwise ← inner.expression
      compound start .conditional [test, value, otherwise]
    else return value

/-- Readers for expressions that nest at most `depth` deep. -/
def Inner.ofDepth : (depth : Nat) → Inner
  | 0 => .none
  | depth + 1 =>
    let inner := ofDepth depth
    { expression := Grammar.expression inner
      disjunction := Grammar.disjunction inner
      inversion := Grammar.inversion inner
      bitwiseOr := Grammar.bitwiseOr inner
      factor := Grammar.factor inner }

end StructuralLint.Grammar
