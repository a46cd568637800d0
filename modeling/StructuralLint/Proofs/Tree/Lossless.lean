import StructuralLint.Proofs.Reading
import StructuralLint.Proofs.Tree.Completion

/-!
# Trees lose nothing

Handing out tokens below a draft gives a tree that holds the whole token stream, whatever the spans
of the draft say: spans may overlap, reach out of each other or cover no token at all. The tree is
`Tree.Lossless` for the stream, and it `Tree.Keeps` every node of the draft in its place. A tree
that is parsed from a source text holds the token stream of the text (`Tree.lossless`).
-/

namespace StructuralLint

namespace Tree

/-- The tree holds the tokens and nothing is lost in it: not a token, and not the way to a node. -/
structure Lossless (tree : Tree) (tokens : List Token) : Prop where
  /-- The tokens of the root are the stream, in order. -/
  stream : (tree.tokens tree.root).map tree.token? = tokens.map some
  /-- No token stands in two places. -/
  once : (tree.tokens tree.root).Nodup
  /-- The tokens of a node are one piece of the stream. -/
  segment : ∀ id ∈ tree.walk tree.root, tree.tokens id <:+: tree.tokens tree.root
  /-- They are those of its children side by side. -/
  joined : ∀ id ∈ tree.walk tree.root, tree.isToken id = false →
    tree.tokens id = (tree.children id).flatMap tree.tokens
  leaf : ∀ id ∈ tree.walk tree.root, tree.isToken id = true →
    tree.tokens id = [id] ∧ tree.children id = []
  /-- A walk from the root reaches every node once. -/
  reached : ∀ id, (tree.walk tree.root).count id = if id < tree.nodes.size then 1 else 0
  /-- Each node but the root has a parent that lists it once. -/
  listed : ∀ id ∈ tree.walk tree.root, id ≠ tree.root →
    ∃ parent ∈ tree.walk tree.root, tree.parent? id = some parent ∧
      (tree.children parent).count id = 1
  /-- Children point back to their parent. -/
  back : ∀ id ∈ tree.walk tree.root, ∀ child ∈ tree.children id, tree.parent? child = some id
  top : tree.parent? tree.root = none

/-- A node of the tree is the node of a draft: its children that are no tokens are, one by one, the
parts of the draft that are nodes, and so on below. -/
inductive Keeps (tree : Tree) : Draft → NodeId → Prop
  | node {form : Form} {span : Span} {fields : Fields} {parts : List (Slot × Draft)}
      {id : NodeId} :
      tree.form? id = some form →
      List.Forall₂ (fun part child => Keeps tree part.2 child) (parts.filter (·.2.isNode))
        ((tree.children id).filter fun child => !tree.isToken child) →
      Keeps tree (.node form span fields parts) id

end Tree

/-! ### Tokens of branches -/

/-- The token that a node of this form is. -/
def Form.token? : Form → Option Token
  | .token own => some own
  | _ => none

namespace Placed

theorem allTokens_row (first : Nat) (branches : List (Option Slot × Branch)) :
    (row first branches).flatMap (·.2.branch.tokens) = Branch.allTokens branches := by
  induction branches generalizing first with
  | nil => rfl
  | cons head rest ih => simp only [row, List.flatMap_cons, ih, Branch.allTokens]

/-- The tokens of a node are those of its children side by side. -/
theorem tokens_eq_flatMap {placed : Placed} (inner : placed.isLeaf = false) :
    placed.branch.tokens = placed.children.flatMap (·.2.branch.tokens) := by
  obtain ⟨first, branch⟩ := placed
  cases branch with
  | leaf token => cases inner
  | node form fields children => exact (allTokens_row first children).symm

/-- The leaves below a branch are its tokens. -/
theorem map_form_leaves (placed : Placed) :
    placed.leaves.map (·.form) = placed.branch.tokens.map .token := by
  induction placed using Placed.induction with
  | step placed ih =>
      obtain ⟨first, branch⟩ := placed
      cases branch with
      | leaf token => rw [leaves_of_isLeaf rfl]; rfl
      | node form fields children =>
          rw [leaves_of_not_isLeaf rfl, Branch.tokens, ← allTokens_row first children,
            List.map_flatMap, List.map_flatMap]
          exact List.flatMap_congr ih

theorem leaves_sublist_preorder (placed : Placed) : placed.leaves.Sublist placed.preorder :=
  List.filter_sublist

/-- What is below a branch that lies in another one has its leaves in one piece there. -/
theorem Lies.leaves_infix {root placed : Placed} {above : List Placed}
    (lies : Lies root placed above) : placed.leaves <:+: root.leaves :=
  lies.preorder_infix.filter _

end Placed

namespace Branch

variable {branch : Branch}

theorem mem_walk_toTree {id : NodeId} :
    id ∈ branch.toTree.walk branch.toTree.root ↔
      ∃ placed above, Placed.Lies branch.whole placed above ∧ placed.id = id := by
  rw [root_toTree, Placed.Lies.walk_toTree .root, List.mem_map]
  constructor
  · rintro ⟨placed, member, same⟩
    obtain ⟨above, lies⟩ := Placed.mem_preorder_iff.mp member
    exact ⟨placed, above, lies, same⟩
  · rintro ⟨placed, above, lies, same⟩
    exact ⟨placed, Placed.mem_preorder_iff.mpr ⟨above, lies⟩, same⟩

/-- The tokens of a node are the tokens of its branch. -/
theorem map_token?_toTree {placed : Placed} {above : List Placed}
    (lies : Placed.Lies branch.whole placed above) (sound : branch.TokensAreLeaves) :
    (branch.toTree.tokens placed.id).map branch.toTree.token? = placed.branch.tokens.map some := by
  rw [lies.tokens_toTree sound, List.map_map]
  have forms := congrArg (List.map Form.token?) placed.map_form_leaves
  rw [List.map_map, List.map_map] at forms
  refine Eq.trans (List.map_congr_left fun leaf member => ?_) forms
  obtain ⟨between, below⟩ := Placed.mem_preorder_iff.mp
    (placed.leaves_sublist_preorder.subset member)
  simp only [Function.comp_apply, Tree.token?, (below.trans lies).form?_toTree]
  cases leaf.form <;> rfl

/-- A tree whose tokens are its leaves holds the tokens of its branch. -/
theorem lossless_toTree (sound : branch.TokensAreLeaves) :
    branch.toTree.Lossless branch.tokens where
  stream := by
    rw [root_toTree]
    exact map_token?_toTree .root sound
  once := by
    rw [root_toTree, Placed.Lies.tokens_toTree .root sound]
    exact branch.whole.preorder_ids_nodup.sublist (branch.whole.leaves_sublist_preorder.map _)
  segment := by
    intro id member
    obtain ⟨placed, above, lies, rfl⟩ := mem_walk_toTree.mp member
    rw [root_toTree, Placed.Lies.tokens_toTree .root sound, lies.tokens_toTree sound]
    exact lies.leaves_infix.map _
  joined := by
    intro id member inner
    obtain ⟨placed, above, lies, rfl⟩ := mem_walk_toTree.mp member
    rw [lies.isToken_toTree sound] at inner
    rw [lies.tokens_toTree sound, lies.children_toTree, Placed.leaves_of_not_isLeaf inner,
      List.map_flatMap, List.flatMap_map]
    exact List.flatMap_congr fun child among =>
      ((Placed.Lies.child lies among).tokens_toTree sound).symm
  leaf := by
    intro id member token
    obtain ⟨placed, above, lies, rfl⟩ := mem_walk_toTree.mp member
    rw [lies.isToken_toTree sound] at token
    rw [lies.tokens_toTree sound, lies.children_toTree, Placed.leaves_of_isLeaf token,
      Placed.children_of_isLeaf token]
    exact ⟨rfl, rfl⟩
  reached := by
    intro id
    rw [root_toTree, Placed.Lies.walk_toTree .root, size_toTree,
      branch.whole.preorder_ids_perm.count_eq]
    split
    · rename_i inside
      exact List.count_eq_one_of_mem List.nodup_range'
        (List.mem_range'_1.mpr ⟨Nat.zero_le _, by simpa [whole] using inside⟩)
    · rename_i outside
      refine List.count_eq_zero.mpr fun member => outside ?_
      simpa [whole] using (List.mem_range'_1.mp member).2
  listed := by
    intro id member other
    obtain ⟨placed, above, lies, rfl⟩ := mem_walk_toTree.mp member
    cases lies with
    | root => exact absurd (root_toTree branch).symm other
    | @child parent above slot _ upper among =>
        refine ⟨parent.id, mem_walk_toTree.mpr ⟨parent, above, upper, rfl⟩,
          (Placed.Lies.child upper among).parent?_toTree, ?_⟩
        rw [upper.children_toTree]
        exact List.count_eq_one_of_mem parent.children_ids_nodup (List.mem_map.mpr ⟨_, among, rfl⟩)
  back := by
    intro id member child among
    obtain ⟨placed, above, lies, rfl⟩ := mem_walk_toTree.mp member
    rw [lies.children_toTree, List.mem_map] at among
    obtain ⟨⟨slot, lower⟩, among, rfl⟩ := among
    exact (Placed.Lies.child lies among).parent?_toTree
  top := by
    rw [root_toTree]
    exact Placed.Lies.parent?_toTree .root

end Branch

namespace Placed

/-- The children that are no tokens are the parts. -/
theorem Lies.filter_children_toTree {branch : Branch} {placed : Placed} {above : List Placed}
    {draft : Draft} (lies : Lies branch.whole placed above) (sound : branch.TokensAreLeaves)
    (completes : Branch.Completes draft placed.branch) :
    ((branch.toTree.children placed.id).filter fun child => !branch.toTree.isToken child) =
      placed.slotted.map (·.2.id) := by
  have slots : ∀ child ∈ placed.children, child.1.isSome = !child.2.isLeaf := by
    rintro ⟨slot, child⟩ member
    rw [isLeaf_eq_isNone completes member]
    cases slot <;> rfl
  rw [lies.children_toTree, List.filter_map, slotted, List.map_filterMap, ← List.filterMap_eq_map,
    List.filterMap_filter]
  refine List.filterMap_congr fun child member => ?_
  have own := (Lies.child lies member).isToken_toTree sound
  have known := slots child member
  obtain ⟨given, lower⟩ := child
  cases given <;> simp_all

/-- Every node of a draft is kept in its place. -/
theorem Lies.keeps_toTree {branch : Branch} {placed : Placed} {above : List Placed}
    {draft : Draft} (lies : Lies branch.whole placed above) (sound : branch.TokensAreLeaves)
    (completes : Branch.Completes draft placed.branch) : branch.toTree.Keeps draft placed.id := by
  induction placed using Placed.induction generalizing draft above with
  | step placed ih =>
      have parts := lies.filter_children_toTree sound completes
      have form := form_of_completes completes
      cases draft with
      | leaf token => exact absurd completes.isNode (by simp [Draft.isNode])
      | node form span fields items =>
          refine .node (by rw [lies.form?_toTree, form]; rfl) ?_
          rw [parts, List.forall₂_map_right_iff]
          refine Lists.imp_of_mem (slotted_of_completes completes) ?_
          rintro item - ⟨slot, child⟩ member ⟨-, completes⟩
          have among := mem_slotted_iff.mp member
          exact ih _ among (.child lies among) completes

end Placed

/-! ### Streams -/

/-- The tokens of a stream are numbered one by one. -/
theorem Token.index_of_streamFrom {raws : List RawToken} {index place : Nat}
    {trivia : List String} {token : Token}
    (found : (streamFrom index trivia raws)[place]? = some token) :
    token.index = index + place := by
  induction raws generalizing index place trivia with
  | nil => simp [streamFrom] at found
  | cons raw later ih =>
      rw [streamFrom] at found
      split at found
      · exact ih found
      · split at found
        · exact ih found
        · cases place with
          | zero =>
              rw [List.getElem?_cons_zero, Option.some.injEq] at found
              rw [← found, Nat.add_zero]
          | succ place =>
              rw [List.getElem?_cons_succ] at found
              rw [ih found, Nat.add_assoc, Nat.add_comm 1]

theorem index_of_lex {source : List Char} {tokens : List Token} (read : lex source = .ok tokens)
    {place : Nat} {token : Token} (found : tokens[place]? = some token) : token.index = place := by
  obtain ⟨raws, -, rfl⟩ := exists_scan_of_lex read
  rw [Token.index_of_streamFrom found, Nat.zero_add]

/-! ### The tree of a draft -/

/-- **Nothing is lost.** Handing out the tokens of any stream below any draft gives a tree that
holds the stream and keeps the draft. A tree that is parsed from a source text holds the token
stream of the text, whose tokens are numbered one by one. -/
theorem Tree.lossless :
    (∀ (form : Form) (span : Span) (fields : Fields) (parts : List (Slot × Draft))
        (tokens : List Token), Draft.TokensAreLeaves (.node form span fields parts) →
      let tree := (Branch.node form fields (Branch.ofParts parts tokens)).toTree
      tree.Lossless tokens ∧ tree.Keeps (.node form span fields parts) tree.root) ∧
    (∀ (source : List Char) (withSymbols : Bool) (parsed : ParsedSource),
      parse source withSymbols = .ok parsed →
      ∃ tokens, lex source = .ok tokens ∧ parsed.tree.Lossless tokens ∧
        ∀ (place : Nat) (token : Token), tokens[place]? = some token → token.index = place) := by
  have whole : ∀ (form : Form) (span : Span) (fields : Fields)
      (parts : List (Slot × Draft)) (tokens : List Token),
      Draft.TokensAreLeaves (.node form span fields parts) →
      let tree := (Branch.node form fields (Branch.ofParts parts tokens)).toTree
      tree.Lossless tokens ∧ tree.Keeps (.node form span fields parts) tree.root := by
    intro form span fields parts tokens sound tree
    have completes : Branch.Completes (.node form span fields parts)
      (.node form fields (Branch.ofParts parts tokens)) := .node ..
    have leaves := completes.tokensAreLeaves sound
    have handed := Branch.lossless_toTree leaves
    rw [Branch.tokens, Branch.allTokens_ofParts] at handed
    refine ⟨handed, ?_⟩
    rw [Branch.root_toTree]
    exact Placed.Lies.root.keeps_toTree leaves completes
  refine ⟨whole, fun source withSymbols parsed read => ?_⟩
  obtain ⟨program, tokens, lexed, same, -⟩ := exists_program_of_parse read
  refine ⟨tokens, lexed, ?_, fun place token => index_of_lex lexed⟩
  rw [same]
  exact (whole _ _ _ _ _ (Draft.shaped_ofProgram program _).tokensAreLeaves).1

/-- Two parts, the second of which starts inside the first one and reaches out of it, and a third
one that stands before both. -/
def overlappingParts : List (Slot × Draft) :=
  [(⟨none, 0⟩, .node (.plain .expression) ⟨⟨1, 0⟩, ⟨1, 3⟩⟩ .empty []),
    (⟨none, 1⟩, .node (.plain .expression) ⟨⟨1, 2⟩, ⟨9, 0⟩⟩ .empty []),
    (⟨none, 2⟩, .node (.plain .expression) ⟨⟨0, 0⟩, ⟨0, 0⟩⟩ .empty [])]

/-- Two names side by side. -/
def adjacentNames : List Token :=
  [⟨.name, "a", ⟨1, 0⟩, ⟨1, 1⟩, 0, []⟩, ⟨.name, "b", ⟨1, 2⟩, ⟨1, 3⟩, 1, []⟩]

theorem tokensAreLeaves_overlappingParts :
    Draft.TokensAreLeaves (.node (.file none) default .empty overlappingParts) := by
  refine .node (by simp) fun part member => ?_
  simp only [overlappingParts, List.mem_cons, List.not_mem_nil, or_false] at member
  rcases member with rfl | rfl | rfl <;> exact .node (by simp) (by simp)

/-- Of parts that overlap the first one gets both tokens, and the others keep their places without
any. The tree of a short program has its three tokens, the end of its line and that of the text. -/
theorem Tree.lossless_overlappingParts :
    (Draft.TokensAreLeaves (.node (.file none) default .empty overlappingParts) ∧
      let tree :=
        (Branch.node (.file none) .empty (Branch.ofParts overlappingParts adjacentNames)).toTree
      (tree.Lossless adjacentNames ∧
        tree.Keeps (.node (.file none) default .empty overlappingParts) tree.root) ∧
      tree.children tree.root = [2, 3, 4] ∧ [2, 3, 4].map tree.tokens = [[0, 1], [], []]) ∧
    ∃ parsed, parse "x = y".toList true = .ok parsed ∧
      ∃ tokens, lex "x = y".toList = .ok tokens ∧ parsed.tree.Lossless tokens ∧
        (∀ (place : Nat) (token : Token), tokens[place]? = some token → token.index = place) ∧
        tokens.map (·.value) = ["x", "=", "y", "", ""] := by
  obtain ⟨parsed, read⟩ := exists_parsed_of_isOk
    (show (parse "x = y".toList true).isOk = true by decide +kernel)
  obtain ⟨tokens, lexed, lossless, numbered⟩ := Tree.lossless.2 _ _ _ read
  have values : (lex "x = y".toList).toOption.map (List.map (·.value)) =
      some ["x", "=", "y", "", ""] := by
    decide +kernel
  rw [lexed] at values
  exact ⟨⟨tokensAreLeaves_overlappingParts,
      Tree.lossless.1 _ _ _ _ _ tokensAreLeaves_overlappingParts, by decide +kernel⟩,
    parsed, read, tokens, lexed, lossless, numbered, Option.some.inj values⟩

end StructuralLint
