import StructuralLint.Tree.Basic

/-!
# Symbols

A symbol is what a name means: the bindings of one name in one scope, together with every place
where the name is used with that meaning.
-/

namespace StructuralLint

/-- What a name is used for at one place. -/
inductive UsageKind where
  | functionDeclaration
  | classDeclaration
  | parameter
  | imported
  | exceptionInstance
  /-- Any other binding. -/
  | binding
  /-- A `global` or `nonlocal` declaration. -/
  | globalDeclaration
  /-- A use that binds nothing. -/
  | other
deriving DecidableEq, Repr

namespace UsageKind

/-- The name of a kind of usage in reports. -/
def label : UsageKind → String
  | functionDeclaration => "func_declaration"
  | classDeclaration => "class_declaration"
  | parameter => "parameter"
  | imported => "import"
  | exceptionInstance => "exception_instance"
  | binding => "binding"
  | globalDeclaration => "global_declaration"
  | other => "other"

/-- Whether a usage gives the name its meaning. -/
def binds : UsageKind → Bool
  | globalDeclaration | other => false
  | _ => true

end UsageKind

/-- A place where a name is used. -/
structure Usage where
  node : NodeId
  kind : UsageKind
deriving DecidableEq, Repr

/-- What a symbol is, as far as all of its bindings agree. -/
inductive SymbolKind where
  | function
  | classDef
  | other
deriving DecidableEq, Repr

/-- The name of a kind of symbol in reports. -/
def SymbolKind.label : SymbolKind → String
  | function => "function"
  | classDef => "class"
  | other => "other"

/-- The number of a symbol in its table. -/
abbrev SymbolId := Nat

/-- The meaning of a name in a scope. -/
structure Symbol where
  name : String
  kind : SymbolKind
  /-- The bindings in source order, then the declarations, then the other uses. -/
  usages : List Usage
deriving DecidableEq, Repr

/-- The usages that give the name its meaning. -/
def Symbol.bindings (symbol : Symbol) : List Usage := symbol.usages.filter (·.kind.binds)

/-- The kind of a symbol with these usages: that of the definitions if all bindings are definitions
of one kind. -/
def SymbolKind.ofUsages (usages : List Usage) : SymbolKind :=
  let bindings := usages.filter (·.kind.binds)
  if bindings.isEmpty then .other
  else if bindings.all (·.kind = .functionDeclaration) then .function
  else if bindings.all (·.kind = .classDeclaration) then .classDef
  else .other

/-- The symbols of a tree and which name carries which of them. -/
structure SymbolTable where
  symbols : List Symbol
  /-- Names with their symbols. If a name stands here more than once, the last time counts. -/
  carried : List (NodeId × SymbolId)

namespace SymbolTable

/-- No name has a meaning. -/
def empty : SymbolTable := ⟨[], []⟩

/-- The symbol that a name carries. -/
def symbolOf? (table : SymbolTable) (node : NodeId) : Option SymbolId :=
  (table.carried.reverse.find? (·.1 = node)).map (·.2)

end SymbolTable

end StructuralLint
