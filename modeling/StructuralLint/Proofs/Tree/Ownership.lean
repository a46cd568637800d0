import StructuralLint.Proofs.Tree.Lossless
import StructuralLint.Proofs.Tree.Nesting

/-!
# Who owns a token

Handing out a stream below a draft with nested spans gives every node of the draft a place in the
tree, and every node of the tree the tokens that its span owns (`Tree.ownership`). Tokens of no
width that stand where a node starts, such as the end of a block before a statement, go to a node
above it. The proof goes from the root down: a node that was handed a window in which its parts find
what they own is `Placed.Filled`, and then so are its parts.
-/

namespace StructuralLint

namespace Tree

/-- `tree.Places whole part id above`: the node `id` of the tree is the node `part` of the draft
`whole`, and `above` are the nodes above it, the nearest first. The children of a node that are no
tokens are, one by one, the parts of the draft that are nodes. -/
inductive Places (tree : Tree) (whole : Draft) : Draft → NodeId → List NodeId → Prop
  | root : Places tree whole whole tree.root []
  | part {form : Form} {span : Span} {fields : Fields} {parts : List (Slot × Draft)}
      {id child : NodeId} {above : List NodeId} {slot : Slot} {part : Draft} :
      Places tree whole (.node form span fields parts) id above →
        ((slot, part), child) ∈ (parts.filter (·.2.isNode)).zip
          ((tree.children id).filter fun child => !tree.isToken child) →
        Places tree whole part child (id :: above)

/-- The node `id`, below the nodes `above`, has the tokens that `span` owns. -/
structure Owns (tree : Tree) (stream : List Token) (span : Span) (id : NodeId)
    (above : List NodeId) : Prop where
  /-- Its tokens are the tokens of the stream that start in the span, but for those of no width
  where the span starts. -/
  exact : (tree.tokens id).map tree.token? = (stream.filter span.owns).map some
  /-- It starts with the first token of some width that stands where the span starts, and no token
  that comes earlier in the stream is in it. -/
  opening : ∃ first token, tree.firstToken id = some first ∧ tree.token? first = some token ∧
    stream.find? span.opens = some token ∧
      ∀ leaf ∈ tree.tokens id, ∀ other, tree.token? leaf = some other → token.index ≤ other.index
  /-- Tokens of no width that stand where the span starts are children of a node above. -/
  layout : ∀ token ∈ stream, token.isEmpty = true → token.start = span.start →
    ∃ ancestor ∈ above, ∃ leaf ∈ tree.children ancestor, tree.token? leaf = some token

end Tree

/-! ### Nodes that have what they own -/

namespace Placed

/-- A node of a draft that was handed a window of the stream in which its parts find what they
own. -/
structure Filled (stream window : List Token) (draft : Draft) (placed : Placed) : Prop where
  branch : placed.branch = Branch.ofDraft draft window
  isNode : draft.isNode = true
  fits : Draft.Fits window draft.parts
  nested : ∀ part ∈ draft.parts, part.2.Nested stream
  owned : ∀ part ∈ draft.parts, window.filter part.2.span.owns = stream.filter part.2.span.owns

namespace Filled

variable {stream window : List Token} {draft part : Draft} {placed : Placed}

theorem completes (filled : Filled stream window draft placed) :
    Branch.Completes draft placed.branch := by
  rw [filled.branch]
  cases draft with
  | leaf token => exact absurd filled.isNode (by simp [Draft.isNode])
  | node form span fields parts =>
      rw [Branch.ofDraft]
      exact .node ..

/-- The tokens of the node are the window. -/
theorem tokens (filled : Filled stream window draft placed) : placed.branch.tokens = window := by
  rw [filled.branch, Branch.tokens_ofDraft filled.isNode]

/-- A node with nested spans is filled with what it owns. -/
theorem of_nested (ordered : Token.IsStream stream) (nested : draft.Nested stream)
    (node : draft.isNode = true)
    (branch : placed.branch = Branch.ofDraft draft (stream.filter draft.span.owns)) :
    Filled stream (stream.filter draft.span.owns) draft placed := by
  cases nested with
  | leaf => simp [Draft.isNode] at node
  | @node form span fields parts proper opens sideBySide within nested =>
      have owned : ∀ part ∈ parts,
          (stream.filter span.owns).filter part.2.span.owns = stream.filter part.2.span.owns :=
        fun part member => (within part member).filter_owns stream
      exact ⟨branch, rfl, Draft.fits_of_nested ordered sideBySide nested List.filter_sublist owned,
        nested, owned⟩

/-- The root of nested parts is filled with the whole stream. -/
theorem of_sideBySide {form : Form} {fields : Fields} {parts : List (Slot × Draft)}
    (ordered : Token.IsStream stream) (sideBySide : Draft.SideBySide parts)
    (nested : ∀ part ∈ parts, part.2.Nested stream)
    (branch : placed.branch = .node form fields (Branch.ofParts parts stream)) (span : Span) :
    Filled stream stream (.node form span fields parts) placed :=
  ⟨by rw [branch, Branch.ofDraft], rfl,
    Draft.fits_of_nested ordered sideBySide nested (.refl _) fun _ _ => rfl, nested,
    fun _ _ => rfl⟩

/-- **From a node to its parts.** The parts of a filled node are filled with what they own. -/
theorem slotted (filled : Filled stream window draft placed) (ordered : Token.IsStream stream) :
    List.Forall₂ (fun part child => part.1 = child.1 ∧
        Filled stream (stream.filter part.2.span.owns) part.2 child.2)
      (draft.parts.filter (·.2.isNode)) placed.slotted := by
  obtain ⟨first, branch⟩ := placed
  cases draft with
  | leaf token => exact absurd filled.isNode (by simp [Draft.isNode])
  | node form span fields parts =>
      obtain rfl : branch = .node form fields (Branch.ofParts parts window) := by
        rw [← Branch.ofDraft]
        exact filled.branch
      have paired : List.Forall₂ (· = ·)
          ((parts.filter (·.2.isNode)).map fun part =>
            (part.1, Branch.ofDraft part.2 (window.filter part.2.span.owns)))
          ((Placed.mk first (.node form fields (Branch.ofParts parts window))).slotted.map
            fun child => (child.1, child.2.branch)) := by
        rw [slotted_eq, Branch.slotted_ofParts (show Draft.Fits window parts from filled.fits)]
        exact List.forall₂_refl _
      refine Lists.imp_of_mem
        (List.forall₂_map_left_iff.mp (List.forall₂_map_right_iff.mp paired)) ?_
      intro part member child _ same
      have given := List.mem_filter.mp member
      obtain ⟨slot, branch⟩ := Prod.mk.inj same
      rw [filled.owned part given.1] at branch
      exact ⟨slot, of_nested ordered (filled.nested part given.1) given.2 branch.symm⟩

variable {branch : Branch} {above : List Placed}

/-- The parts of a filled node and its children that are no tokens go together. -/
theorem zip_toTree (filled : Filled stream window draft placed)
    (lies : Lies branch.whole placed above) (sound : branch.TokensAreLeaves) :
    (draft.parts.filter (·.2.isNode)).zip
        ((branch.toTree.children placed.id).filter fun child => !branch.toTree.isToken child) =
      ((draft.parts.filter (·.2.isNode)).zip placed.slotted).map fun pair =>
        (pair.1, pair.2.2.id) := by
  rw [lies.filter_children_toTree sound filled.completes, List.zip_map_right]
  rfl

/-- A child that goes together with a part is filled with what the part owns. -/
theorem exists_child (filled : Filled stream window draft placed)
    (ordered : Token.IsStream stream) (lies : Lies branch.whole placed above)
    (sound : branch.TokensAreLeaves) {slot : Slot} {id : NodeId}
    (paired : ((slot, part), id) ∈ (draft.parts.filter (·.2.isNode)).zip
      ((branch.toTree.children placed.id).filter fun child => !branch.toTree.isToken child)) :
    (slot, part) ∈ draft.parts ∧ ∃ child, (some slot, child) ∈ placed.children ∧ child.id = id ∧
      Filled stream (stream.filter part.span.owns) part child := by
  rw [filled.zip_toTree lies sound] at paired
  obtain ⟨⟨given, slot', child⟩, among, same⟩ := List.mem_map.mp paired
  cases same
  obtain ⟨left, right⟩ := List.of_mem_zip among
  obtain ⟨rfl, inner⟩ := (List.forall₂_iff_zip.mp (filled.slotted ordered)).2 among
  exact ⟨List.mem_of_mem_filter left, child, mem_slotted_iff.mp right, rfl, inner⟩

/-- Every child that is no token goes together with a part. -/
theorem exists_part (filled : Filled stream window draft placed)
    (ordered : Token.IsStream stream) (lies : Lies branch.whole placed above)
    (sound : branch.TokensAreLeaves) {slot : Option Slot} {child : Placed}
    (member : (slot, child) ∈ placed.children) (inner : child.isLeaf = false) :
    ∃ part, (part, child.id) ∈ (draft.parts.filter (·.2.isNode)).zip
      ((branch.toTree.children placed.id).filter fun child => !branch.toTree.isToken child) := by
  have listed : child.id ∈
      (branch.toTree.children placed.id).filter fun child => !branch.toTree.isToken child := by
    refine List.mem_filter.mpr ⟨?_, ?_⟩
    · rw [lies.children_toTree]
      exact List.mem_map.mpr ⟨_, member, rfl⟩
    · rw [(Lies.child lies member).isToken_toTree sound, inner]
      rfl
  have lengths : (draft.parts.filter (·.2.isNode)).length =
      ((branch.toTree.children placed.id).filter fun child =>
        !branch.toTree.isToken child).length := by
    rw [lies.filter_children_toTree sound filled.completes, List.length_map]
    exact (filled.slotted ordered).length_eq
  rw [← List.map_snd_zip lengths.ge] at listed
  obtain ⟨pair, among, same⟩ := List.mem_map.mp listed
  exact ⟨pair.1, by rwa [← same]⟩

/-- A child that was not handed out is filled with what a part owns. -/
theorem of_mem_children (filled : Filled stream window draft placed)
    (ordered : Token.IsStream stream) {slot : Option Slot} {child : Placed}
    (member : (slot, child) ∈ placed.children) :
    child.isLeaf = true ∨ ∃ slot, ∃ part, (slot, part) ∈ draft.parts ∧
      Filled stream (stream.filter part.span.owns) part child := by
  cases slot with
  | some slot =>
      obtain ⟨part, given, rfl, inner⟩ :=
        Lists.exists_left (filled.slotted ordered) (mem_slotted_iff.mpr member)
      exact .inr ⟨part.1, part.2, List.mem_of_mem_filter given, inner⟩
  | none => exact .inl (isLeaf_eq_isNone filled.completes member)

/-- A token of the window that has no width and stands where a part starts is a child. -/
theorem exists_leaf (filled : Filled stream window draft placed)
    (ordered : Token.IsStream stream) {slot : Slot} (member : (slot, part) ∈ draft.parts)
    {token : Token} (inside : token ∈ window) (empty : token.isEmpty = true)
    (starts : token.start = part.span.start) :
    ∃ slot, ∃ leaf, (slot, leaf) ∈ placed.children ∧ leaf.form = .token token := by
  rw [← filled.tokens] at inside
  have listed : Form.token token ∈ placed.leaves.map (·.form) := by
    rw [placed.map_form_leaves]
    exact List.mem_map_of_mem inside
  rw [leaves_of_not_isLeaf (isLeaf_of_completes filled.completes)] at listed
  obtain ⟨leaf, below, same⟩ := List.mem_map.mp listed
  obtain ⟨⟨slot', child⟩, among, below⟩ := List.mem_flatMap.mp below
  rcases filled.of_mem_children ordered among with own | ⟨other, rival, given, inner⟩
  · rw [leaves_of_isLeaf own, List.mem_singleton] at below
    exact ⟨slot', child, among, below ▸ same⟩
  · -- the token would be owned by another part, which then overlaps this one
    have owned : rival.span.owns token = true := by
      have listed : Form.token token ∈ child.leaves.map (·.form) :=
        List.mem_map.mpr ⟨leaf, below, same⟩
      rw [child.map_form_leaves, inner.tokens] at listed
      obtain ⟨other, member, same⟩ := List.mem_map.mp listed
      cases same
      exact List.of_mem_filter member
    cases filled.fits.eq_of_owns member given owned starts
    rw [(Span.owns_iff.mp owned).2.2 starts] at empty
    cases empty

end Filled

/-- The way through first children ends at the first token, where no node is without tokens. -/
theorem Lies.firstToken_toTree {branch : Branch} {placed : Placed} {above : List Placed}
    (lies : Lies branch.whole placed above) (sound : branch.TokensAreLeaves)
    (full : ∀ below between, Lies placed below between → below.leaves ≠ []) :
    branch.toTree.firstToken placed.id = placed.leaves.head?.map (·.id) := by
  suffices deep : ∀ depth, placed.id < depth →
      branch.toTree.firstTokenTo depth placed.id = placed.leaves.head?.map (·.id) from
    deep _ (Nat.lt_succ_self _)
  induction placed using Placed.induction generalizing above with
  | step placed ih =>
      intro depth enough
      obtain ⟨depth, rfl⟩ : ∃ less, depth = less + 1 := ⟨depth - 1, by omega⟩
      rw [Tree.firstTokenTo, lies.isToken_toTree sound, lies.children_toTree]
      cases leaf : placed.isLeaf with
      | true => rw [if_pos rfl, leaves_of_isLeaf leaf]; rfl
      | false =>
          rw [if_neg (by simp), leaves_of_not_isLeaf leaf]
          cases children : placed.children with
          | nil =>
              refine absurd ?_ (full placed [] .root)
              rw [leaves_of_not_isLeaf leaf, children, List.flatMap_nil]
          | cons child rest =>
              have member : child ∈ placed.children := children ▸ List.mem_cons_self
              have within := Lies.child .root member
              have smaller := id_child_lt member
              rw [List.map_cons, List.flatMap_cons]
              refine (ih child member (.child lies member) ?_ depth (by omega)).trans ?_
              · exact fun below between lower => full below _ (lower.trans within)
              cases first : child.2.leaves with
              | nil => exact absurd first (full _ _ within)
              | cons head tail => rfl

end Placed

namespace Tree.Places

variable {stream : List Token} {whole part : Draft} {branch : Branch} {id : NodeId}
  {above : List NodeId}

/-- **From the root to every node.** A node of the draft is filled with what its span owns, unless
it is the root, and the layout where it starts is with the nodes above. -/
theorem exists_filled (places : branch.toTree.Places whole part id above)
    (ordered : Token.IsStream stream) (sound : branch.TokensAreLeaves)
    (top : Placed.Filled stream stream whole branch.whole) :
    ∃ placed outer window, Placed.Lies branch.whole placed outer ∧ placed.id = id ∧
      outer.map (·.id) = above ∧ Placed.Filled stream window part placed ∧
      (above = [] ∧ window = stream ∨
        window = stream.filter part.span.owns ∧ part.Nested stream) ∧
      ∀ token ∈ stream, token ∉ window → token.isEmpty = true → token.start = part.span.start →
        ∃ ancestor ∈ above, ∃ leaf ∈ branch.toTree.children ancestor,
          branch.toTree.token? leaf = some token := by
  induction places with
  | root =>
      exact ⟨branch.whole, [], stream, .root, branch.root_toTree.symm, rfl, top, .inl ⟨rfl, rfl⟩,
        fun token member outside => absurd member outside⟩
  | @part form span fields parts id child above slot part upper paired ih =>
      obtain ⟨placed, outer, window, lies, rfl, rfl, filled, bounds, layout⟩ := ih
      obtain ⟨given, lower, member, rfl, inner⟩ := filled.exists_child ordered lies sound paired
      have nested := filled.nested _ given
      refine ⟨lower, placed :: outer, _, .child lies member, rfl, rfl, inner, .inr ⟨rfl, nested⟩,
        ?_⟩
      intro token present _ empty starts
      by_cases inside : token ∈ window
      · obtain ⟨slot, leaf, among, own⟩ := filled.exists_leaf ordered given inside empty starts
        refine ⟨placed.id, List.mem_cons_self, leaf.id, ?_, ?_⟩
        · rw [lies.children_toTree]
          exact List.mem_map.mpr ⟨_, among, rfl⟩
        · rw [Tree.token?, (Placed.Lies.child lies among).form?_toTree, own]
      · -- what the parent does not own either stands where the parent starts
        rcases bounds with ⟨-, rfl⟩ | ⟨rfl, outside⟩
        · exact absurd present inside
        · cases outside with
          | node _ _ _ within _ =>
              have other : span.owns token = false :=
                Bool.eq_false_iff.mpr fun own => inside (List.mem_filter.mpr ⟨present, own⟩)
              have same := (within _ given).start_eq_of_not_owns nested.proper starts other
              obtain ⟨ancestor, higher, found⟩ := layout token present inside empty same
              exact ⟨ancestor, List.mem_cons_of_mem _ higher, found⟩

/-- Every node that is no token is a node of the draft. -/
theorem exists_of_lies (ordered : Token.IsStream stream) (sound : branch.TokensAreLeaves)
    (top : Placed.Filled stream stream whole branch.whole) {placed : Placed} {outer : List Placed}
    (lies : Placed.Lies branch.whole placed outer) (inner : placed.isLeaf = false) :
    ∃ part, branch.toTree.Places whole part placed.id (outer.map (·.id)) := by
  induction lies with
  | root => exact ⟨whole, by rw [← branch.root_toTree]; exact .root⟩
  | @child parent outer slot child upper member ih =>
      have node : parent.isLeaf = false := by
        refine Bool.eq_false_iff.mpr fun leaf => ?_
        rw [Placed.children_of_isLeaf leaf] at member
        simp at member
      obtain ⟨draft, places⟩ := ih node
      obtain ⟨placed, _, window, lies, same, -, filled, -⟩ :=
        places.exists_filled ordered sound top
      obtain rfl : placed = parent := lies.eq_of_id upper same
      obtain ⟨part, paired⟩ := filled.exists_part ordered upper sound member inner
      cases draft with
      | leaf token => exact absurd filled.isNode (by simp [Draft.isNode])
      | node form span fields parts => exact ⟨part.2, places.part paired⟩

end Tree.Places

/-- No branch below the root of a nested draft is without tokens. -/
theorem Placed.Lies.leaves_ne_nil {stream : List Token} {whole : Draft} {branch : Branch}
    {placed : Placed} {outer : List Placed} (lies : Lies branch.whole placed outer)
    (ordered : Token.IsStream stream) (sound : branch.TokensAreLeaves)
    (top : Filled stream stream whole branch.whole) (lower : outer ≠ []) : placed.leaves ≠ [] := by
  cases leaf : placed.isLeaf with
  | true => simp [leaves_of_isLeaf leaf]
  | false =>
      obtain ⟨part, places⟩ := Tree.Places.exists_of_lies ordered sound top lies leaf
      obtain ⟨same, _, window, lies', equal, -, filled, bounds, -⟩ :=
        places.exists_filled ordered sound top
      obtain rfl : same = placed := lies'.eq_of_id lies equal
      rcases bounds with ⟨none, -⟩ | ⟨rfl, nested⟩
      · exact absurd (List.map_eq_nil_iff.mp none) lower
      · obtain ⟨token, rest, split, -⟩ := nested.exists_opening filled.isNode ordered.inOrder
        intro none
        have forms := same.map_form_leaves
        rw [filled.tokens, split, none] at forms
        cases forms

/-! ### Ownership -/

/-- A node below the root owns the tokens of its span. -/
theorem Tree.Places.owns {stream : List Token} {whole part : Draft} {branch : Branch} {id : NodeId}
    {above : List NodeId} (places : branch.toTree.Places whole part id above)
    (ordered : Token.IsStream stream) (sound : branch.TokensAreLeaves)
    (top : Placed.Filled stream stream whole branch.whole) (lower : above ≠ []) :
    branch.toTree.Owns stream part.span id above := by
  obtain ⟨placed, outer, window, lies, rfl, rfl, filled, bounds, layout⟩ :=
    places.exists_filled ordered sound top
  rcases bounds with ⟨none, -⟩ | ⟨rfl, nested⟩
  · exact absurd none lower
  have exact := Branch.map_token?_toTree lies sound
  rw [filled.tokens] at exact
  refine ⟨exact, ?_, fun token present empty starts => ?_⟩
  · obtain ⟨token, rest, split, opened⟩ := nested.exists_opening filled.isNode ordered.inOrder
    have first : branch.toTree.firstToken placed.id = (branch.toTree.tokens placed.id).head? := by
      rw [lies.firstToken_toTree sound, lies.tokens_toTree sound, List.head?_map]
      intro below between within
      exact (within.trans lies).leaves_ne_nil ordered sound top
        (List.append_ne_nil_of_right_ne_nil _ (by simpa using lower))
    have increasing : (stream.filter part.span.owns).Pairwise
        fun left right => left.index < right.index := ordered.increasing.filter _
    rw [split] at exact increasing
    cases tokens : branch.toTree.tokens placed.id with
    | nil => simp [tokens] at exact
    | cons head tail =>
        rw [tokens, List.map_cons, List.map_cons, List.cons.injEq] at exact
        refine ⟨head, token, by rw [first, tokens]; rfl, exact.1, opened, ?_⟩
        intro leaf member other same
        rcases List.mem_cons.mp member with rfl | later
        · rw [exact.1, Option.some.injEq] at same
          exact Nat.le_of_eq (congrArg _ same)
        · have among := List.mem_map_of_mem (f := branch.toTree.token?) later
          rw [exact.2, same, List.mem_map] at among
          obtain ⟨_, among, same⟩ := among
          cases same
          exact Nat.le_of_lt ((List.pairwise_cons.mp increasing).1 other among)
  · refine layout token present (fun inside => ?_) empty starts
    have wide := (Span.owns_iff.mp (List.of_mem_filter inside)).2.2 starts
    rw [wide] at empty
    cases empty

/-- **A node owns the tokens of its span.** Where the tokens of a stream are handed out below a
draft whose spans are nested, every node of the draft is kept in its place and the tree has no
others. Every node but the root has the tokens that the span of its draft owns, starts with the
first one that has a width, and leaves the layout before it to the nodes above. -/
theorem Tree.ownership (form : Form) (span : Span) (fields : Fields)
    (parts : List (Slot × Draft)) (stream : List Token)
    (sound : Draft.TokensAreLeaves (.node form span fields parts))
    (ordered : Token.IsStream stream) (sideBySide : Draft.SideBySide parts)
    (nested : ∀ part ∈ parts, part.2.Nested stream) :
    let whole : Draft := .node form span fields parts
    let tree := (Branch.node form fields (Branch.ofParts parts stream)).toTree
    tree.Keeps whole tree.root ∧
    (∀ id < tree.nodes.size, tree.isToken id = false →
      ∃ part above, tree.Places whole part id above) ∧
    ∀ part id above, tree.Places whole part id above → id ≠ tree.root →
      tree.Owns stream part.span id above := by
  intro whole tree
  have completes : Branch.Completes whole (.node form fields (Branch.ofParts parts stream)) :=
    .node ..
  have leaves := completes.tokensAreLeaves sound
  have top := Placed.Filled.of_sideBySide ordered sideBySide nested
    (show (Branch.node form fields (Branch.ofParts parts stream)).whole.branch = _ from rfl) span
  refine ⟨?_, ?_, ?_⟩
  · rw [show tree.root = _ from Branch.root_toTree _]
    exact Placed.Lies.root.keeps_toTree leaves completes
  · intro id inside inner
    rw [Branch.size_toTree] at inside
    obtain ⟨placed, outer, lies, rfl⟩ := Branch.exists_lies _ inside
    rw [lies.isToken_toTree leaves] at inner
    obtain ⟨part, places⟩ := Tree.Places.exists_of_lies ordered leaves top lies inner
    exact ⟨part, _, places⟩
  · intro part id above places other
    refine places.owns ordered leaves top ?_
    rintro rfl
    cases places
    exact other rfl

/-! ### An example -/

/-- `if a: b` over two lines, and `c` after the end of the block. -/
def blockTokens : List Token :=
  [⟨.keyword, "if", ⟨1, 0⟩, ⟨1, 2⟩, 0, []⟩, ⟨.name, "a", ⟨1, 3⟩, ⟨1, 4⟩, 1, []⟩,
    ⟨.op, ":", ⟨1, 4⟩, ⟨1, 5⟩, 2, []⟩, ⟨.newline, "\n", ⟨1, 5⟩, ⟨1, 6⟩, 3, []⟩,
    ⟨.indent, "  ", ⟨2, 0⟩, ⟨2, 2⟩, 4, []⟩, ⟨.name, "b", ⟨2, 2⟩, ⟨2, 3⟩, 5, []⟩,
    ⟨.newline, "\n", ⟨2, 3⟩, ⟨2, 4⟩, 6, []⟩, ⟨.dedent, "", ⟨3, 0⟩, ⟨3, 0⟩, 7, []⟩,
    ⟨.name, "c", ⟨3, 0⟩, ⟨3, 1⟩, 8, []⟩, ⟨.newline, "", ⟨3, 1⟩, ⟨3, 2⟩, 9, []⟩,
    ⟨.endMarker, "", ⟨4, 0⟩, ⟨4, 0⟩, 10, []⟩]

/-- The `if` statement with a name in its head and a statement in its body, and the statement after
it, which is a name that claims its token. -/
def blockParts : List (Slot × Draft) :=
  [(⟨some .statement, 0⟩, .ofSpan .ifStatement ⟨⟨1, 0⟩, ⟨2, 3⟩⟩ .empty
      [(none, .node (.name "a" false) ⟨⟨1, 3⟩, ⟨1, 4⟩⟩ .empty []),
        (some .body, .node (.plain .expressionStatement) ⟨⟨2, 2⟩, ⟨2, 3⟩⟩ .empty [])]),
    (⟨some .statement, 1⟩, .ofSpan (.plain .expressionStatement) ⟨⟨3, 0⟩, ⟨3, 1⟩⟩ .empty
      [(none, .ofSpan (.name "c" false) ⟨⟨3, 0⟩, ⟨3, 1⟩⟩ .empty
        [(none, .leaf ⟨.name, "c", ⟨3, 0⟩, ⟨3, 1⟩, 8, []⟩)])])]

theorem Draft.nested_blockParts : ∀ part ∈ blockParts, part.2.Nested blockTokens :=
  Draft.nested_of_nestsAll blockParts (by decide +kernel)

theorem Draft.tokensAreLeaves_blockParts :
    Draft.TokensAreLeaves (.node (.file none) default .empty blockParts) := by
  have bare : ∀ form : Form, (∀ token, form ≠ .token token) → ∀ span : Span,
      Draft.TokensAreLeaves (.node form span .empty []) := fun _ other _ => .node other (by simp)
  refine .node (by simp) ?_
  simp only [blockParts, List.forall_mem_cons, List.not_mem_nil, false_imp_iff, implies_true,
    and_true]
  refine ⟨tokensAreLeaves_ofSpan (by simp) ?_, tokensAreLeaves_ofSpan (by simp) ?_⟩
  all_goals
    simp only [List.forall_mem_cons, List.not_mem_nil, false_imp_iff, implies_true, and_true]
  · exact ⟨bare _ (by simp) _, bare _ (by simp) _⟩
  · refine tokensAreLeaves_ofSpan (by simp) ?_
    simp only [List.forall_mem_cons, List.not_mem_nil, false_imp_iff, implies_true, and_true]
    exact .leaf _

/-- The tree of the two statements. -/
def blockTree : Tree :=
  (Branch.node (.file none) .empty (Branch.ofParts blockParts blockTokens)).toTree

theorem Tree.places_blockTree : ∀ pair ∈ blockParts.zip [8, 13],
    blockTree.Places (.node (.file none) default .empty blockParts) pair.1.2 pair.2 [16] := by
  have top : blockTree.root = 16 := by decide +kernel
  have children : ((blockTree.children blockTree.root).filter fun child =>
      !blockTree.isToken child) = [8, 13] := by
    decide +kernel
  rw [← children, ← top]
  rintro ⟨⟨slot, part⟩, id⟩ among
  exact .part .root among

/-- The `if` statement is node 8 and has the tokens up to its last name, `c` is node 13 and starts
with its name. The end of the block stands where `c` starts and is a child of the root. -/
theorem Tree.ownership_blockParts :
    (Draft.TokensAreLeaves (.node (.file none) default .empty blockParts) ∧
      Token.IsStream blockTokens ∧ Draft.SideBySide blockParts ∧
      ∀ part ∈ blockParts, part.2.Nested blockTokens) ∧
    (blockTree.Keeps (.node (.file none) default .empty blockParts) blockTree.root ∧
      blockTree.Owns blockTokens ⟨⟨1, 0⟩, ⟨2, 3⟩⟩ 8 [16] ∧
      blockTree.Owns blockTokens ⟨⟨3, 0⟩, ⟨3, 1⟩⟩ 13 [16]) ∧
    (blockTree.tokens 8).map blockTree.token? = (blockTokens.take 6).map some ∧
      blockTree.firstToken 13 = some 11 ∧ blockTree.token? 11 = blockTokens[8]? ∧
        blockTree.children 16 = [8, 9, 10, 13, 14, 15] ∧
          blockTree.token? 10 = blockTokens[7]? := by
  have ordered : Token.IsStream blockTokens := ⟨by decide, by decide⟩
  have sideBySide : Draft.SideBySide blockParts := ⟨by decide, by decide⟩
  obtain ⟨keeps, -, owns⟩ := Tree.ownership (.file none) default .empty blockParts blockTokens
    Draft.tokensAreLeaves_blockParts ordered sideBySide Draft.nested_blockParts
  refine ⟨⟨Draft.tokensAreLeaves_blockParts, ordered, sideBySide, Draft.nested_blockParts⟩,
    ⟨keeps, ?_, ?_⟩, ?_⟩
  · exact owns _ 8 [16] (places_blockTree _ List.mem_cons_self) (by decide +kernel)
  · exact owns _ 13 [16] (places_blockTree _ (List.mem_cons_of_mem _ List.mem_cons_self))
      (by decide +kernel)
  · decide +kernel

end StructuralLint
