import StructuralLint.Symbol.Resolution
import StructuralLint.Tree.Building

/-!
# Parsing

The tree of a source text together with the symbols of its names. Symbols are left out on request;
then every name stays without one.
-/

namespace StructuralLint

/-- A tree with the symbols of its names. -/
structure ParsedSource where
  tree : Tree
  symbols : SymbolTable

namespace ParsedSource

/-- A tree with symbols, if they are asked for. -/
def ofTree (tree : Tree) (withSymbols : Bool) : Except TreeError ParsedSource :=
  if withSymbols then
    match SymbolTable.ofTree tree with
    | some symbols => .ok ⟨tree, symbols⟩
    | none => .error .namelessDefinition
  else .ok ⟨tree, .empty⟩

end ParsedSource

/-- Reads a source text into a tree with symbols, if they are asked for. -/
def parse (source : List Char) (withSymbols : Bool) : Except TreeError ParsedSource := do
  ParsedSource.ofTree (← Tree.ofSource source) withSymbols

end StructuralLint
