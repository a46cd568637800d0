import StructuralLint.Symbol.Basic

/-!
# Scopes

The file, every function, every class and every comprehension is a scope. A walk over the tree
collects the scopes and, in source order, every mention of a name in one of them. The names of
parameters belong to the function's own scope; decorators, class arguments, type hints and
defaults to the scope around it.
-/

namespace StructuralLint

/-- The number of a scope in its table. A scope comes after the scope around it. -/
abbrev ScopeId := Nat

/-- A stretch of a program with names of its own. -/
structure Scope where
  parent : Option ScopeId
  isClass : Bool
deriving DecidableEq, Repr

/-- What a mention of a name does. -/
inductive Act where
  | bind (kind : UsageKind)
  | declareGlobal
  | declareNonlocal
  | read
deriving DecidableEq, Repr

/-- A name at one place of a scope. -/
structure Mention where
  scope : ScopeId
  name : String
  node : NodeId
  act : Act
deriving DecidableEq, Repr

/-- The scopes of a tree and the mentions of names in them. -/
structure ScopeTable where
  scopes : Array Scope
  mentions : Array Mention

namespace ScopeTable

/-- The scope of the file. -/
def fileScope : ScopeId := 0

/-- The table before anything is collected. -/
def initial : ScopeTable := ⟨#[⟨none, false⟩], #[]⟩

/-- A new scope inside another one. -/
def openScope (table : ScopeTable) (parent : ScopeId) (isClass : Bool) : ScopeTable × ScopeId :=
  ({ table with scopes := table.scopes.push ⟨some parent, isClass⟩ }, table.scopes.size)

/-- Notes what a name node does in a scope. -/
def mention (table : ScopeTable) (tree : Tree) (scope : ScopeId) (node : NodeId) (act : Act) :
    ScopeTable :=
  match tree.nameText? node with
  | some name => { table with mentions := table.mentions.push ⟨scope, name, node, act⟩ }
  | none => table

/-- The parameters of a parameter list, with those that take a sequence apart replaced by their
own, as far as `depth` levels down. -/
def flatParameters (tree : Tree) : (depth : Nat) → List NodeId → List NodeId
  | 0, _ => []
  | depth + 1, entries =>
    entries.flatMap fun entry =>
      match tree.form? entry with
      | some .tupleParameter => flatParameters tree depth (tree.attributes entry .entry)
      | some .parameter => [entry]
      | _ => []

/-- The parameters of a function. -/
def parametersOf (tree : Tree) (function : NodeId) : List NodeId :=
  match tree.attribute? function .parameters with
  | some list => flatParameters tree (list + 1) (tree.attributes list .entry)
  | none => []

/-- Binds the parameters of a function in its own scope. What is left to visit, the type hints and
the defaults, belongs to the scope around it. -/
def bindParameters (table : ScopeTable) (tree : Tree) (function : NodeId) (inner outer : ScopeId) :
    ScopeTable × List (NodeId × ScopeId) :=
  (parametersOf tree function).foldl
    (fun (table, pending) parameter =>
      let table := match tree.attribute? parameter .name with
        | some name => table.mention tree inner name (.bind .parameter)
        | none => table
      let later := tree.attributes parameter .hint ++ tree.attributes parameter .defaultValue
      (table, pending ++ later.map (·, outer)))
    (table, [])

/-- Takes note of a node in a scope. Gives what is left to visit, or nothing if the node is a
definition without a name. -/
def enter (table : ScopeTable) (tree : Tree) (node : NodeId) (scope : ScopeId) :
    Option (ScopeTable × List (NodeId × ScopeId)) :=
  let inScope (scope : ScopeId) (nodes : List NodeId) := nodes.map (·, scope)
  let attributes := tree.attributes node
  match tree.form? node with
  | none => some (table, [])
  | some (.token _) => some (table, [])
  | some (.function _) => do
    let name ← tree.attribute? node .name
    let table := table.mention tree scope name (.bind .functionDeclaration)
    let (table, inner) := table.openScope scope false
    let (table, parameters) := table.bindParameters tree node inner scope
    return (table, inScope scope (attributes .decorator) ++ parameters
      ++ inScope scope (attributes .returnHint) ++ inScope inner (attributes .body))
  | some .classDef => do
    let name ← tree.attribute? node .name
    let table := table.mention tree scope name (.bind .classDeclaration)
    let (table, inner) := table.openScope scope true
    return (table, inScope scope (attributes .decorator) ++ inScope scope (attributes .argument)
      ++ inScope inner (attributes .body))
  | some .lambda =>
    let (table, inner) := table.openScope scope false
    let (table, parameters) := table.bindParameters tree node inner scope
    some (table, parameters ++ inScope inner (attributes .expression))
  | some (.scopeDeclaration isGlobal) =>
    let act : Act := if isGlobal then .declareGlobal else .declareNonlocal
    some ((attributes .declared).foldl (fun table name => table.mention tree scope name act) table,
      [])
  | some (.exceptClause _) =>
    let table := match tree.attribute? node .caught with
      | some name => table.mention tree scope name (.bind .exceptionInstance)
      | none => table
    some (table, inScope scope (attributes .exception) ++ inScope scope (attributes .body))
  | some (.name _ binds) =>
    let imported := (tree.parent? node).any (tree.isKind [.aliasedName])
    let act : Act :=
      if !binds then .read else if imported then .bind .imported else .bind .binding
    some (table.mention tree scope node act, [])
  | some form =>
    if form.kind.isComprehension then
      let (table, inner) := table.openScope scope false
      some (table, inScope inner (tree.children node))
    else some (table, inScope scope (tree.children node))

/-- Takes note of a node and of everything below it, as far as `depth` levels down. -/
def collectTo (tree : Tree) : (depth : Nat) → ScopeTable → NodeId × ScopeId → Option ScopeTable
  | 0, table, _ => some table
  | depth + 1, table, (node, scope) => do
    let (table, pending) ← table.enter tree node scope
    pending.foldlM (collectTo tree depth) table

/-- The scopes and mentions below a node; nothing if a definition has no name. -/
def collect (tree : Tree) (root : NodeId) : Option ScopeTable :=
  collectTo tree (root + 1) initial (root, fileScope)

/-! ### What the mentions say -/

variable (table : ScopeTable)

/-- Whether a scope declares a name to be one of the file. -/
def declaresGlobal (scope : ScopeId) (name : String) : Bool :=
  table.mentions.any fun mention =>
    mention.scope = scope && mention.act = .declareGlobal && mention.name = name

/-- Whether a scope declares a name to be one of a scope around it. -/
def declaresNonlocal (scope : ScopeId) (name : String) : Bool :=
  table.mentions.any fun mention =>
    mention.scope = scope && mention.act = .declareNonlocal && mention.name = name

/-- Whether a scope says what a name is. -/
def declares (scope : ScopeId) (name : String) : Bool :=
  table.mentions.any fun mention =>
    mention.scope = scope && mention.act ≠ .read && mention.name = name

/-- The scope around a scope. -/
def parent? (scope : ScopeId) : Option ScopeId := table.scopes[scope]?.bind (·.parent)

/-- Whether a scope is that of a class. -/
def isClass (scope : ScopeId) : Bool := table.scopes[scope]?.any (·.isClass)

/-- The first scope from `current` outwards that declares a name and is neither a class nor the
file, at most `fuel` scopes away. -/
def nearestDeclaring (name : String) (fuel : Nat) (current : Option ScopeId) : Option ScopeId :=
  match fuel, current with
  | 0, _ => none
  | _, none => none
  | fuel + 1, some scope =>
    if scope = fileScope then none
    else if !table.isClass scope && table.declares scope name then some scope
    else nearestDeclaring name fuel (table.parent? scope)

/-- The scope that a name belongs to if a scope says what it is: the file if it is declared global,
the scope that the nearest enclosing one says if it is declared nonlocal, and else the scope
itself. -/
def targetTo (name : String) : (depth : Nat) → ScopeId → ScopeId
  | 0, scope => scope
  | depth + 1, scope =>
    if table.declaresGlobal scope name then fileScope
    else if table.declaresNonlocal scope name then
      match table.nearestDeclaring name scope (table.parent? scope) with
      | some enclosing => targetTo name depth enclosing
      | none => scope
    else scope

/-- The scope that a name belongs to if `scope` says what it is. -/
def target (scope : ScopeId) (name : String) : ScopeId := table.targetTo name (scope + 1) scope

/-- The scope that says what a name is that is read in scope `from_`: the nearest one from
`current` outwards that declares it. A class says it only for reads in the class itself. -/
def declaringTo (from_ : ScopeId) (name : String) (fuel : Nat) (current : Option ScopeId) :
    Option ScopeId :=
  match fuel, current with
  | 0, _ => none
  | _, none => none
  | fuel + 1, some scope =>
    if (scope = from_ || !table.isClass scope) && table.declares scope name then some scope
    else declaringTo from_ name fuel (table.parent? scope)

/-- The scope that says what a name is that is read in a scope. -/
def declaring? (scope : ScopeId) (name : String) : Option ScopeId :=
  table.declaringTo scope name (scope + 1) (some scope)

end ScopeTable

end StructuralLint
