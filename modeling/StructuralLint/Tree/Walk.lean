import StructuralLint.Tree.Basic

/-!
# Walks

The ways through a tree. Downward walks keep a stack of nodes that are still to be visited; the
number of visits, which bounds their run, is `Tree.weight`. Upward walks follow parents.
-/

namespace StructuralLint.Tree

variable (tree : Tree)

/-- The number of visits of a walk from a node, as far as `depth` levels down. -/
def weightTo : (depth : Nat) → NodeId → Nat
  | 0, _ => 0
  | depth + 1, id => ((tree.children id).map (weightTo depth)).foldr (· + ·) 0 + 1

/-- The number of visits of a walk from a node. Children have smaller numbers than their parents,
so that no path down from a node is longer than its number. -/
def weight (id : NodeId) : Nat := tree.weightTo (id + 1) id

/-- Visits the nodes of a stack, and before the rest of the stack what is below each of them. -/
def visit (fuel : Nat) (stack : List NodeId) : List NodeId :=
  match fuel, stack with
  | 0, _ => []
  | _, [] => []
  | fuel + 1, id :: stack => id :: visit fuel (tree.children id ++ stack)

/-- A node and all nodes below it, every node before its children. -/
def walk (id : NodeId) : List NodeId := tree.visit (tree.weight id) [id]

/-- Visits the nodes of a stack like `visit`, and keeps those that satisfy a predicate. -/
def collect (satisfies : NodeId → Bool) (fuel : Nat) (stack : List NodeId) : List NodeId :=
  match fuel, stack with
  | 0, _ => []
  | _, [] => []
  | fuel + 1, id :: stack =>
    let later := collect satisfies fuel (tree.children id ++ stack)
    if satisfies id then id :: later else later

/-- The nodes below a node that satisfy a predicate, every node before its children. -/
def descendants (id : NodeId) (satisfies : NodeId → Bool) : List NodeId :=
  tree.collect satisfies (tree.weight id) (tree.children id)

/-- Visits the nodes of a stack, last children first, until one satisfies a predicate. -/
def search (satisfies : NodeId → Bool) (fuel : Nat) (stack : List NodeId) : Bool :=
  match fuel, stack with
  | 0, _ => false
  | _, [] => false
  | fuel + 1, id :: stack =>
    satisfies id || search satisfies fuel ((tree.children id).reverse ++ stack)

/-- Whether a node below a node satisfies a predicate. -/
def hasDescendant (id : NodeId) (satisfies : NodeId → Bool) : Bool :=
  tree.search satisfies (tree.weight id) (tree.children id).reverse

/-- Visits the nodes of a stack, and keeps the tokens. Nothing is looked for below a token. -/
def gather (fuel : Nat) (stack : List NodeId) : List NodeId :=
  match fuel, stack with
  | 0, _ => []
  | _, [] => []
  | fuel + 1, id :: stack =>
    if tree.isToken id then id :: gather fuel stack
    else gather fuel (tree.children id ++ stack)

/-- The tokens of a node in source order. A token is its own token. -/
def tokens (id : NodeId) : List NodeId :=
  if tree.isToken id then [id] else tree.gather (tree.weight id) (tree.children id)

/-- The tokens of a node but those of layout. -/
def visibleTokens (id : NodeId) : List NodeId :=
  (tree.tokens id).filter fun token => !(tree.token? token).any (·.type.isLayout)

/-- Follows first children down to a token, at most `depth` times. -/
def firstTokenTo : (depth : Nat) → NodeId → Option NodeId
  | 0, _ => none
  | depth + 1, id =>
    if tree.isToken id then some id
    else match tree.children id with
      | [] => none
      | child :: _ => firstTokenTo depth child

/-- The token that is reached through first children. -/
def firstToken (id : NodeId) : Option NodeId := tree.firstTokenTo (id + 1) id

/-- The first child that satisfies a predicate. -/
def firstChild (id : NodeId) (satisfies : NodeId → Bool) : Option NodeId :=
  (tree.children id).find? satisfies

/-- Follows parents until one satisfies a predicate, at most `fuel` times. -/
def climb (satisfies : NodeId → Bool) (fuel : Nat) (current : Option NodeId) : Option NodeId :=
  match fuel, current with
  | 0, _ => none
  | _, none => none
  | fuel + 1, some id =>
    if satisfies id then some id else climb satisfies fuel (tree.parent? id)

/-- The nearest node above a node that satisfies a predicate. -/
def firstAncestor (id : NodeId) (satisfies : NodeId → Bool) : Option NodeId :=
  tree.climb satisfies tree.nodes.size (tree.parent? id)

/-- The nearest node above a node that is of one of these kinds. -/
def firstAncestorOfKind (id : NodeId) (kinds : List Kind) : Option NodeId :=
  tree.firstAncestor id (tree.isKind kinds)

end StructuralLint.Tree
