import StructuralLint.Token
import StructuralLint.Tree.Kind

/-!
# Syntax trees

A syntax tree is a table of nodes. A node knows its children in order and, by the part they play,
the nodes that are its attributes; nodes refer to each other by their number in the table. A node
stands after its children, so that the root is the last one. Tokens are the leaves, and no token
of a file is left out: the tokens below a node spell its source text.
-/

namespace StructuralLint

/-- The number of a node in its tree. -/
abbrev NodeId := Nat

/-- What a node is, with what it says apart from its relations to other nodes. -/
inductive Form where
  | token (token : Token)
  /-- A node that is no more than its kind and its children. -/
  | plain (kind : Kind)
  | name (text : String) (binds : Bool)
  | file (docstring : Option String)
  /-- A parameter, or a marker between parameters, which has no name. -/
  | parameter
  /-- A parameter that takes a sequence apart. -/
  | tupleParameter
  | parameterList
  | function (isAsync : Bool)
  | classDef
  | lambda
  | raise
  | elseClause
  | finallyClause
  | exceptClause (isStar : Bool)
  | tryStatement
  /-- An `if` statement. A further branch of it is one more `if` statement inside. -/
  | ifStatement
  | whileLoop
  | forLoop (isAsync : Bool)
  | scopeDeclaration (isGlobal : Bool)
deriving DecidableEq, Repr

/-- The kind of a node of this form. -/
def Form.kind : Form → Kind
  | token _ => .token
  | plain kind => kind
  | name _ _ => .name
  | file _ => .fileInput
  | parameter => .parameter
  | tupleParameter => .tupleParameter
  | parameterList => .parameterList
  | function _ => .function
  | classDef => .classDef
  | lambda => .lambda
  | raise => .raiseStatement
  | elseClause => .elseClause
  | finallyClause => .finallyClause
  | exceptClause _ => .exceptClause
  | tryStatement => .tryStatement
  | ifStatement => .ifStatement
  | whileLoop => .whileStatement
  | forLoop _ => .forStatement
  | scopeDeclaration isGlobal => if isGlobal then .globalStatement else .nonlocalStatement

/-- The part that an attribute plays for its node. -/
inductive Role where
  | name
  /-- The parameter list of a function. -/
  | parameters
  | returnHint
  | decorator
  /-- A base or a keyword argument of a class. -/
  | argument
  /-- A statement of a block. -/
  | body
  /-- A statement of a file. -/
  | statement
  /-- An entry of a parameter list or a tuple parameter. -/
  | entry
  /-- The star before a parameter, or the sign that a marker consists of. -/
  | star
  | hint
  | defaultValue
  /-- What is raised, or the body of a function without a name. -/
  | expression
  /-- The cause that an exception is raised from. -/
  | cause
  /-- The word that opens a clause. -/
  | keyword
  | exception
  /-- The name that an exception is caught under. -/
  | caught
  | handler
  | elseClause
  | finallyClause
  | condition
  | target
  | iterable
  | elifBranch
  /-- A name in a scope declaration. -/
  | declared
deriving DecidableEq, Repr

/-- A node of a syntax tree. -/
structure Node where
  form : Form
  attributes : List (Role × NodeId)
  children : List NodeId
deriving Repr

/-- A syntax tree. -/
structure Tree where
  nodes : Array Node
  /-- The node that has a node among its children, if there is one. -/
  parents : Array (Option NodeId)

namespace Tree

/-- The parents that the children lists of a table say. Of several the last one counts. -/
def parentTable (nodes : Array Node) : Array (Option NodeId) :=
  nodes.toList.zipIdx.foldl
    (fun table (node, id) =>
      node.children.foldl (fun table child => table.setIfInBounds child (some id)) table)
    (Array.replicate nodes.size none)

/-- The tree of a table of nodes. -/
def ofNodes (nodes : Array Node) : Tree := ⟨nodes, parentTable nodes⟩

variable (tree : Tree)

/-- The root of the tree. -/
def root : NodeId := tree.nodes.size - 1

/-- What a node is. -/
def form? (id : NodeId) : Option Form := tree.nodes[id]?.map (·.form)

/-- The kind of a node. -/
def kind? (id : NodeId) : Option Kind := (tree.form? id).map (·.kind)

/-- The children of a node, in order. -/
def children (id : NodeId) : List NodeId :=
  match tree.nodes[id]? with
  | some node => node.children
  | none => []

/-- The parent of a node. -/
def parent? (id : NodeId) : Option NodeId := tree.parents[id]?.join

/-- The nodes that play a part for a node, in order. -/
def attributes (id : NodeId) (role : Role) : List NodeId :=
  match tree.nodes[id]? with
  | some node => (node.attributes.filter (·.1 = role)).map (·.2)
  | none => []

/-- The node that plays a part for a node. -/
def attribute? (id : NodeId) (role : Role) : Option NodeId := (tree.attributes id role).head?

/-- The token that a node is. -/
def token? (id : NodeId) : Option Token :=
  match tree.form? id with
  | some (.token token) => some token
  | _ => none

/-- Whether a node is a token. -/
def isToken (id : NodeId) : Bool := (tree.token? id).isSome

/-- The text of a name. -/
def nameText? (id : NodeId) : Option String :=
  match tree.form? id with
  | some (.name text _) => some text
  | _ => none

/-- Whether a node defines a function. -/
def isFunction (id : NodeId) : Bool :=
  match tree.form? id with
  | some (.function _) => true
  | _ => false

/-- Whether a node is of one of these kinds. -/
def isKind (kinds : List Kind) (id : NodeId) : Bool := (tree.kind? id).any kinds.contains

end Tree

end StructuralLint
