import StructuralLint.Text.Quoted
import StructuralLint.Tree.Walk

/-!
# Questions about nodes

What checks ask about definitions and expressions: the parameters of a function, the methods of a
class, the dotted name that an expression spells.
-/

namespace StructuralLint.Tree

variable (tree : Tree)

/-- The text of the name that a node has as an attribute. -/
def attributeName? (id : NodeId) : Option String :=
  (tree.attribute? id .name).bind tree.nameText?

/-! ### Parameters -/

/-- Whether a parameter is a marker that consists of a sign: it has no name. -/
def isMarker (sign : String) (parameter : NodeId) : Bool :=
  match tree.form? parameter with
  | some .parameter =>
    (tree.attribute? parameter .name).isNone &&
      ((tree.attribute? parameter .star).bind tree.token?).any (·.value = sign)
  | _ => false

/-- Whether only parameters that are passed by keyword follow. -/
def isKeywordOnlyMarker (parameter : NodeId) : Bool := tree.isMarker "*" parameter

/-- Whether only parameters that are passed by position stand before. -/
def isPositionalOnlyMarker (parameter : NodeId) : Bool := tree.isMarker "/" parameter

/-- Whether a node is a parameter that takes nothing apart. -/
def isPlainParameter (id : NodeId) : Bool := tree.form? id = some .parameter

/-- The entries of the parameter list of a function. -/
def parameterEntries (function : NodeId) : List NodeId :=
  match tree.attribute? function .parameters with
  | some list => tree.attributes list .entry
  | none => []

/-- The parameters of a function that take nothing apart. -/
def plainParameters (function : NodeId) : List NodeId :=
  (tree.parameterEntries function).filter tree.isPlainParameter

/-- The parameters of a function up to the keyword-only marker, without the positional-only marker.
With a parameter that takes a sequence apart there are none, for then the places are ambiguous. -/
def positionalParameters (function : NodeId) : List NodeId :=
  let entries := tree.parameterEntries function
  if entries.any fun entry => tree.form? entry = some .tupleParameter then []
  else
    (entries.takeWhile fun entry => !tree.isKeywordOnlyMarker entry).filter fun entry =>
      !tree.isPositionalOnlyMarker entry

/-! ### Methods -/

/-- Visits the nodes of a stack, and keeps the functions. Nothing is looked for below a function, a
class or a token. -/
def gatherFunctions (fuel : Nat) (stack : List NodeId) : List NodeId :=
  match fuel, stack with
  | 0, _ => []
  | _, [] => []
  | fuel + 1, id :: stack =>
    if tree.isFunction id then id :: gatherFunctions fuel stack
    else if tree.isKind [.function, .classDef] id || tree.isToken id then gatherFunctions fuel stack
    else gatherFunctions fuel (tree.children id ++ stack)

/-- The functions that a class defines in its body, in nested blocks too, but not in functions and
classes inside. -/
def topLevelFunctions (classDef : NodeId) : List NodeId :=
  let body := tree.attributes classDef .body
  tree.gatherFunctions ((body.map tree.weight).foldr (· + ·) 0) body

/-! ### Dotted names -/

/-- The parts of a chain of members, last first, as far as `depth` levels down. -/
def dottedPartsTo : (depth : Nat) → Option NodeId → Option (List String)
  | 0, _ => none
  | _, none => none
  | depth + 1, some id =>
    if tree.kind? id = some .qualifiedExpr then
      match (tree.children id).getLast?.bind tree.token? with
      | some last =>
        if last.type = .name then
          (dottedPartsTo depth (tree.firstChild id fun child => !tree.isToken child)).map
            (last.value :: ·)
        else none
      | none => none
    else (tree.nameText? id).map ([·])

/-- The dotted name that an expression spells, if it is a name with members after it. -/
def dottedName? (expression : NodeId) : Option String :=
  (tree.dottedPartsTo (expression + 1) (some expression)).map fun parts =>
    ".".intercalate parts.reverse

/-! ### Descriptions -/

/-- The name of a node's class in descriptions. -/
def classLabel : Form → String
  | .token _ => "Token"
  | .plain _ => "Node"
  | .name _ _ => "Name"
  | .file _ => "FileInput"
  | .parameter => "Parameter"
  | .tupleParameter => "TupleParameter"
  | .parameterList => "ParameterList"
  | .function _ => "FunctionDef"
  | .classDef => "ClassDef"
  | .lambda => "LambdaExpression"
  | .raise => "RaiseStatement"
  | .elseClause => "ElseClause"
  | .finallyClause => "FinallyClause"
  | .exceptClause _ => "ExceptClause"
  | .tryStatement => "TryStatement"
  | .ifStatement => "IfStatement"
  | .whileLoop => "LoopStatement"
  | .forLoop _ => "LoopStatement"
  | .scopeDeclaration _ => "ScopeDeclaration"

/-- A node in one line: what it is and where its first token stands. -/
def describe (id : NodeId) : String :=
  match tree.form? id with
  | none => ""
  | some (.token token) =>
    s!"<Token {token.type.label} {Text.quoted token.value} " ++
      s!"{token.start.line}:{token.start.column}>"
  | some form =>
    let place := match (tree.firstToken id).bind tree.token? with
      | some token => s!" {token.start.line}:{token.start.column}"
      | none => ""
    s!"<{classLabel form} {form.kind.label}{place}>"

end StructuralLint.Tree
