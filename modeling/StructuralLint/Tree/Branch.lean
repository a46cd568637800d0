import StructuralLint.Tree.Draft

/-!
# Handing out tokens

A branch is a draft with its tokens. The tokens of a node are handed out from left to right: a part
gets those that start in its span, as far as they are still there, and what stands before, between
and after the parts belongs to the node itself. Tokens of no width where a part starts are layout
and stay with the node. In the end every token has been handed out once, whatever the spans say.
-/

namespace StructuralLint

/-- A node with its tokens. -/
inductive Branch where
  | leaf (token : Token)
  /-- Each child has a slot if it is a part of the draft, and none if it is a token that was handed
  out. -/
  | node (form : Form) (fields : Fields) (children : List (Option Slot × Branch))

namespace Branch

/-- Tokens as children of their own. -/
def leaves (tokens : List Token) : List (Option Slot × Branch) :=
  tokens.map fun token => (none, leaf token)

/-- The tokens before a part that starts at `start`, and the others. -/
def splitBefore (start : Position) (tokens : List Token) : List Token × List Token :=
  let (before, others) := tokens.span (·.start.before start)
  let (layout, others) := others.span fun token => token.start = start && token.isEmpty
  (before ++ layout, others)

mutual

/-- A draft with the tokens that are handed out to it. -/
def ofDraft : Draft → List Token → Branch
  | .leaf token, _ => leaf token
  | .node form _ fields parts, tokens => node form fields (ofParts parts tokens)

/-- The children of a node with these parts and tokens. A token that the node claims is skipped
if it is not among the tokens. -/
def ofParts : List (Slot × Draft) → List Token → List (Option Slot × Branch)
  | [], tokens => leaves tokens
  | (_, .leaf token) :: parts, tokens =>
    match tokens.span (·.index ≠ token.index) with
    | (before, own :: after) => leaves before ++ (none, leaf own) :: ofParts parts after
    | (_, []) => ofParts parts tokens
  | (slot, .node form span fields children) :: parts, tokens =>
    let (before, others) := splitBefore span.start tokens
    let (own, after) := others.span (·.start.before span.stop)
    leaves before ++ (some slot, ofDraft (.node form span fields children) own) ::
      ofParts parts after

end

/-! ### Numbering the nodes -/

mutual

/-- The number of nodes of a branch. -/
def size : Branch → Nat
  | leaf _ => 1
  | node _ _ children => sizes children + 1

/-- The number of nodes of branches. -/
def sizes : List (Option Slot × Branch) → Nat
  | [] => 0
  | (_, child) :: rest => child.size + sizes rest

end

mutual

/-- The numbers of the tokens of a branch whose nodes are numbered from `first` on. -/
def tokenIds (first : NodeId) : Branch → List NodeId
  | leaf _ => [first]
  | node _ _ children => childTokenIds first children

/-- The numbers of the tokens of branches. -/
def childTokenIds (first : NodeId) : List (Option Slot × Branch) → List NodeId
  | [] => []
  | (_, child) :: rest => child.tokenIds first ++ childTokenIds (first + child.size) rest

end

/-- The numbers of branches whose nodes are numbered from `first` on, with their slots. -/
def childIds (first : NodeId) : List (Option Slot × Branch) → List (Option Slot × NodeId)
  | [] => []
  | (slot, child) :: rest =>
    (slot, first + child.size - 1) :: childIds (first + child.size) rest

/-- Puts a part before the first one that was given later. -/
def insertByPlace (item : Nat × Role × NodeId) :
    List (Nat × Role × NodeId) → List (Nat × Role × NodeId)
  | [] => [item]
  | other :: rest =>
    if other.1 < item.1 then other :: insertByPlace item rest else item :: other :: rest

/-- The children that have a role, in the order in which the parts were given. -/
def playersOf (children : List (Option Slot × NodeId)) : List (Role × NodeId) :=
  let given := children.filterMap fun (slot, id) => do
    let slot ← slot
    let role ← slot.role
    return (slot.place, role, id)
  (given.foldr insertByPlace []).map (·.2)

/-- The nodes that roles name among those that play one. A role that no node is left for stands for
`missing`. -/
def named (missing : NodeId) : List Role → List (Role × NodeId) → List (Role × NodeId)
  | [], _ => []
  | role :: roles, players =>
    (role, ((players.find? (·.1 = role)).map (·.2)).getD missing) ::
      named missing roles (players.eraseP (·.1 = role))

mutual

/-- The nodes of a branch, numbered from `first` on, children before their parents. `tokenId` gives
the number of the token with a given index. A node that holds a part which it does not have holds
itself instead, and so no child. -/
def nodes (tokenId : Nat → NodeId) (first : NodeId) : Branch → List Node
  | leaf token => [⟨.token token, [], []⟩]
  | node form fields children =>
    let ids := childIds first children
    childNodes tokenId first children ++
      [⟨form, fields.tokens.map (fun (role, token) => (role, tokenId token.index)) ++
          named (first + sizes children) fields.roles (playersOf ids),
        ids.map (·.2)⟩]

/-- The nodes of branches. -/
def childNodes (tokenId : Nat → NodeId) (first : NodeId) :
    List (Option Slot × Branch) → List Node
  | [] => []
  | (_, child) :: rest =>
    child.nodes tokenId first ++ childNodes tokenId (first + child.size) rest

end

/-- The tree of a branch. -/
def toTree (branch : Branch) : Tree :=
  let ids := (branch.tokenIds 0).toArray
  .ofNodes (branch.nodes (fun index => ids.getD index 0) 0).toArray

end Branch

end StructuralLint
