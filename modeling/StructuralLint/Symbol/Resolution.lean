import StructuralLint.Symbol.Scope
import StructuralLint.Tree.Walk

/-!
# Resolution

Every name gets the symbol that it refers to. First the bindings of each scope are brought
together under the scope that they belong to, which makes the symbols; then declarations and reads
are added to the symbols that they refer to. Names that refer to nothing stay without a symbol.
-/

namespace StructuralLint

/-- A name in the scope that it belongs to. -/
@[ext]
structure Meaning where
  scope : ScopeId
  name : String
deriving Repr

instance : DecidableEq Meaning := fun left right =>
  decidable_of_iff (left.scope = right.scope ∧ left.name = right.name) Meaning.ext_iff.symm

namespace Resolution

variable (tree : Tree) (table : ScopeTable)

/-- The place of a usage in source order. A name without a token comes first. -/
def sourceOrder (usage : Usage) : Int :=
  match (tree.firstToken usage.node).bind tree.token? with
  | some token => token.index
  | none => -1

/-- Puts a usage before the first one that does not come before it. -/
def insertUsage (usage : Usage) : List Usage → List Usage
  | [] => [usage]
  | other :: rest =>
    if sourceOrder tree other < sourceOrder tree usage then other :: insertUsage usage rest
    else usage :: other :: rest

/-- Usages in source order. Usages at one place stay as they stand. -/
def sortUsages (usages : List Usage) : List Usage := usages.foldr (insertUsage tree) []

/-- The names that a scope binds with their usages, in the order of their first bindings. -/
def bindingsOf (scope : ScopeId) : List (String × List Usage) :=
  let bindings := table.mentions.toList.filterMap fun mention =>
    match mention.act with
    | .bind kind =>
      if mention.scope = scope then some (mention.name, (⟨mention.node, kind⟩ : Usage)) else none
    | _ => none
  (bindings.map (·.1)).eraseDups.map fun name =>
    (name, (bindings.filter (·.1 = name)).map (·.2))

/-- Adds usages to those of a meaning, which is put at the end if it is new. -/
def addBindings (meaning : Meaning) (usages : List Usage) :
    List (Meaning × List Usage) → List (Meaning × List Usage)
  | [] => [(meaning, usages)]
  | (other, known) :: rest =>
    if other = meaning then (other, known ++ usages) :: rest
    else (other, known) :: addBindings meaning usages rest

/-- The meanings of all bound names with their bindings, which may stand in several scopes. -/
def meanings : List (Meaning × List Usage) :=
  ((List.range table.scopes.size).flatMap fun scope =>
    (bindingsOf table scope).map fun (name, usages) => (scope, name, usages)).foldl
    (fun known (scope, name, usages) => addBindings ⟨table.target scope name, name⟩ usages known)
    []

/-- The usages that refer to a meaning without binding the name, with the meaning. -/
def references (act : Mention → Option Meaning) (kind : UsageKind) : List (Meaning × Usage) :=
  table.mentions.toList.filterMap fun mention =>
    (act mention).map fun meaning => (meaning, ⟨mention.node, kind⟩)

/-- What a declaration refers to. -/
def declared (mention : Mention) : Option Meaning :=
  if mention.act = .declareGlobal ∨ mention.act = .declareNonlocal then
    some ⟨table.target mention.scope mention.name, mention.name⟩
  else none

/-- What a read refers to. -/
def readMeaning (mention : Mention) : Option Meaning :=
  if mention.act = .read then
    (table.declaring? mention.scope mention.name).map fun scope =>
      ⟨table.target scope mention.name, mention.name⟩
  else none

/-- The symbols of a tree whose scopes have been collected. -/
def resolve : SymbolTable :=
  let bound := (meanings table).map fun (meaning, usages) => (meaning, sortUsages tree usages)
  let referring :=
    references table (declared table) .globalDeclaration
      ++ references table (readMeaning table) .other
  let symbols := bound.map fun (meaning, usages) =>
    { name := meaning.name
      kind := .ofUsages usages
      usages := usages ++ (referring.filter (·.1 = meaning)).map (·.2) : Symbol }
  let numbered := bound.zipIdx
  let carried :=
    numbered.flatMap (fun ((_, usages), id) => usages.map fun usage => (usage.node, id))
      ++ referring.filterMap fun (meaning, usage) =>
        (numbered.find? (·.1.1 = meaning)).map fun (_, id) => (usage.node, id)
  ⟨symbols, carried⟩

end Resolution

/-- The symbols of a tree; nothing if a function or a class has no name. -/
def SymbolTable.ofTree (tree : Tree) : Option SymbolTable :=
  (ScopeTable.collect tree tree.root).map (Resolution.resolve tree)

end StructuralLint
