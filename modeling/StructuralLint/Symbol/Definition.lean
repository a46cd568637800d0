import StructuralLint.Symbol.Resolution
import StructuralLint.Tree.Query

/-!
# Symbols of definitions

The symbol of a function or a class definition, unless its name is bound to something else as well:
then the definition does not tell what the name means.
-/

namespace StructuralLint

/-- Why there is no telling which symbol a definition has. -/
inductive DefinitionError where
  /-- The definition has no name. -/
  | nameless
  /-- Symbols have not been looked for. -/
  | unresolved (expected : SymbolKind) (name : String)
deriving DecidableEq, Repr

/-- The text of the error. -/
def DefinitionError.message : DefinitionError → String
  | nameless => "No name"
  | unresolved expected name =>
    s!"No symbol for {expected.label} {Text.quoted name}: tree built without symbols"

namespace SymbolTable

variable (table : SymbolTable) (tree : Tree)

/-- The symbol of a definition if it is of the expected kind. -/
def ofDefinition (expected : SymbolKind) (definition : NodeId) :
    Except DefinitionError (Option SymbolId) :=
  match tree.attribute? definition .name with
  | none => .error .nameless
  | some name =>
    match table.symbolOf? name with
    | none => .error (.unresolved expected ((tree.nameText? name).getD ""))
    | some id =>
      match table.symbols[id]? with
      | some symbol => .ok (if symbol.kind = expected then some id else none)
      | none => .ok none

/-- The symbol of a class definition. -/
def ofClass (definition : NodeId) : Except DefinitionError (Option SymbolId) :=
  table.ofDefinition tree .classDef definition

/-- The symbol of a function definition. -/
def ofFunction (definition : NodeId) : Except DefinitionError (Option SymbolId) :=
  table.ofDefinition tree .function definition

end SymbolTable

end StructuralLint
