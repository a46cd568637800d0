import StructuralLint.Proofs.Tree.Ownership
import StructuralLint.Tree.Building
import StructuralLint.Tree.Query

/-!
# Dotted names

The dotted name of an expression is read off the tree from the outside in: a node of a member access
gives its last token, and its first child that is no token is the object. Neither is recorded as
such by the tree, so that both come from how the tokens are handed out: with nested spans the object
is handed what its span owns, parentheses and line ends around it stay with the member access, and
the name of the member, which no part owns, comes last (`Placed.Filled.exists_last`). By induction
along the chain the tree then spells what the chain says (`Tree.dottedName?_ofExpr`).
-/

namespace StructuralLint

open Program

namespace Program.Expr

/-- The names of a chain of members, that of the innermost object first. -/
def chain? : Expr → Option (List String)
  | .name _ id _ => some [id]
  | .member _ object word => (chain? object).map (· ++ [word])
  | _ => none

/-- The dotted name of a chain of members. -/
def dotted? (expr : Expr) : Option String := expr.chain?.map fun names => ".".intercalate names

/-- All along the chain the source text has the names of the members: the last token that a member
access owns is a name, spells the member and stands behind the object. -/
def Spelled (text : SourceText) : Expr → Prop
  | .member span object word =>
    (∃ token, token.type = .name ∧ token.value = word ∧
      (text.tokens.filter (Draft.ofExpr text (.member span object word)).span.owns).getLast? =
        some token ∧
      token.start.before (Draft.ofExpr text object).span.stop = false) ∧ Spelled text object
  | _ => True

end Program.Expr

/-- The nodes that are looked at for the dotted name of an expression: the expression, and below a
member access that ends with a name its first child that is no token. -/
inductive Tree.LookedAt (tree : Tree) (expression : NodeId) : NodeId → Prop
  | expression : LookedAt tree expression expression
  | object {node last object : NodeId} {token : Token} : LookedAt tree expression node →
      tree.kind? node = some .qualifiedExpr → (tree.children node).getLast? = some last →
        tree.token? last = some token → token.type = .name →
          tree.firstChild node (fun child => !tree.isToken child) = some object →
            LookedAt tree expression object

/-! ### Member accesses and their objects -/

namespace Draft

variable (text : SourceText)

theorem isNode_ofExpr (expr : Expr) : (ofExpr text expr).isNode = true := by
  cases expr <;> rfl

/-- A member access has its object for its only part. -/
theorem ofExpr_member (span : Span) (object : Expr) (name : String) :
    ofExpr text (.member span object name) =
      node (.plain .qualifiedExpr) (ofExpr text (.member span object name)).span .empty
        [(⟨none, 0⟩, ofExpr text object)] := rfl

/-- Only names and member accesses can be read as such. -/
theorem form_ofExpr {expr : Expr} (other : ∀ span id use, expr ≠ .name span id use)
    (other' : ∀ span object name, expr ≠ .member span object name) :
    (ofExpr text expr).form.kind ≠ .qualifiedExpr ∧
      ∀ name binds, (ofExpr text expr).form ≠ .name name binds := by
  cases expr with
  | name span id use => exact absurd rfl (other span id use)
  | member span object name => exact absurd rfl (other' span object name)
  | comprehension span collection elements clauses =>
      cases collection <;> simp [ofExpr, ofSpan, form, Form.kind, Collection.kind]
  | compound span own parts => cases own <;> simp [ofExpr, ofSpan, form, Form.kind, Compound.kind]
  | _ => simp [ofExpr, ofSpan, form, Form.kind]

end Draft

namespace Placed

variable {stream window : List Token} {form : Form} {span : Span} {fields : Fields}
  {slot : Slot} {part : Draft} {placed : Placed} {above : List Placed} {branch : Branch}

namespace Filled

/-- What stands behind the only part of a node comes last. -/
theorem exists_last (filled : Filled stream window (.node form span fields [(slot, part)]) placed)
    (ordered : Token.IsStream stream) (node : part.isNode = true) {token : Token}
    (last : window.getLast? = some token) (other : part.span.owns token = false) :
    ∃ leaf, placed.children.getLast? = some (none, leaf) ∧ leaf.form = .token token := by
  have nested : part.Nested stream := filled.nested _ List.mem_cons_self
  have owned : window.filter part.span.owns = stream.filter part.span.owns :=
    filled.owned _ List.mem_cons_self
  have fits : Draft.Fits window [(slot, part)] := filled.fits
  obtain ⟨opening, others, some, -⟩ := nested.exists_opening node ordered.inOrder
  cases part with
  | leaf token => cases node
  | node form' span' fields' children =>
      have proper : span'.start.before span'.stop = true := fits.proper _ List.mem_cons_self
      have layout : Token.LayoutFirst span'.start window := fits.layout _ List.mem_cons_self rfl
      obtain ⟨before, after, whole, -, built⟩ := Branch.ofParts_node_of_proper slot form' fields'
        children [] fits.inOrder layout proper
      rcases List.eq_nil_or_concat after with rfl | ⟨rest, final, rfl⟩
      · -- the last token would be one that the part owns
        have among : token ∈ window.filter (Draft.node form' span' fields' children).span.owns := by
          rw [List.append_nil] at whole
          rw [← whole, List.getLast?_append_of_ne_nil] at last
          · exact List.mem_of_getLast? last
          · exact owned.trans some ▸ List.cons_ne_nil _ _
        rw [List.of_mem_filter among] at other
        cases other
      · obtain rfl : final = token := by
          rw [← whole, List.concat_eq_append, ← List.append_assoc, ← List.append_assoc,
            List.getLast?_concat] at last
          exact Option.some.inj last
        obtain ⟨first, inner⟩ := placed
        obtain rfl : inner = _ := filled.branch
        rw [Branch.ofDraft, children_node, built, Branch.ofParts, Branch.leaves, Branch.leaves,
          List.concat_eq_append, List.map_append, ← List.cons_append, ← List.append_assoc,
          row_append]
        exact ⟨_, List.getLast?_concat, rfl⟩

/-- The only part of a node is its first child that is no token. -/
theorem exists_firstChild
    (filled : Filled stream window (.node form span fields [(slot, part)]) placed)
    (ordered : Token.IsStream stream) (node : part.isNode = true)
    (lies : Lies branch.whole placed above) (sound : branch.TokensAreLeaves) :
    ∃ child, (some slot, child) ∈ placed.children ∧
      Filled stream (stream.filter part.span.owns) part child ∧
      branch.toTree.firstChild placed.id (fun child => !branch.toTree.isToken child) =
        some child.id := by
  have slots := filled.slotted ordered
  rw [Draft.parts, List.filter_cons_of_pos (by exact node), List.filter_nil] at slots
  obtain ⟨⟨slot', child⟩, single, rfl, inner⟩ := Lists.exists_singleton slots
  refine ⟨child, mem_slotted_iff.mp (single ▸ List.mem_cons_self), inner, ?_⟩
  rw [Tree.firstChild, ← List.head?_filter, lies.filter_children_toTree sound filled.completes,
    single]
  rfl

end Filled

/-! ### Along a chain -/

variable {text : SourceText}

/-- **The tree spells the chain.** Looking for the parts of a dotted name from the node of an
expression gives the names of its chain, the last one first. -/
theorem Filled.dottedPartsTo_toTree {expr : Expr}
    (filled : Filled text.tokens (text.tokens.filter (Draft.ofExpr text expr).span.owns)
      (Draft.ofExpr text expr) placed)
    (ordered : Token.IsStream text.tokens) (spelled : expr.Spelled text)
    (lies : Lies branch.whole placed above) (sound : branch.TokensAreLeaves) {depth : Nat}
    (deep : placed.id < depth) :
    branch.toTree.dottedPartsTo depth (some placed.id) = expr.chain?.map List.reverse := by
  obtain ⟨depth, rfl⟩ := Nat.exists_eq_add_one.mpr (Nat.zero_lt_of_lt deep)
  have found := lies.form?_toTree
  rw [form_of_completes filled.completes] at found
  induction expr using Expr.chain?.induct generalizing placed above depth with
  | case1 span id use =>
      rw [Tree.dottedPartsTo, Tree.kind?, Tree.nameText?, found]
      rfl
  | case2 span object name ih =>
      obtain ⟨⟨token, type, value, last, behind⟩, spelled⟩ := spelled
      rw [Draft.ofExpr_member] at filled
      have node := Draft.isNode_ofExpr text object
      have other : (Draft.ofExpr text object).span.owns token = false := by
        simp [Span.owns, behind]
      obtain ⟨leaf, final, held⟩ := filled.exists_last ordered node last other
      obtain ⟨child, member, inner, first⟩ := filled.exists_firstChild ordered node lies sound
      have smaller := id_child_lt member
      have lower := Lies.child lies member
      have ending : (branch.toTree.children placed.id).getLast?.bind branch.toTree.token? =
          some token := by
        have member := List.mem_of_getLast? final
        rw [lies.children_toTree, List.getLast?_map, final, Option.map_some, Option.bind_some,
          Tree.token?, (Lies.child lies member).form?_toTree, held]
      obtain ⟨depth, rfl⟩ : ∃ less, depth = less + 1 := ⟨depth - 1, by omega⟩
      have kind : branch.toTree.kind? placed.id = some .qualifiedExpr := by
        rw [Tree.kind?, found]
        rfl
      have below := lower.form?_toTree
      rw [form_of_completes inner.completes] at below
      rw [Tree.dottedPartsTo, if_pos kind, ending, first]
      simp only [type, if_true]
      rw [ih inner spelled lower depth (by omega) below, value, Expr.chain?, Option.map_map,
        Option.map_map]
      exact congrArg (Option.map · _) (funext fun names => (List.reverse_concat ..).symm)
  | case3 expr other other' =>
      obtain ⟨kind, form⟩ := Draft.form_ofExpr text other other'
      rw [Tree.dottedPartsTo, Tree.kind?, Tree.nameText?, found, Option.map_some,
        if_neg (by simpa using kind)]
      cases expr with
      | name span id use => exact absurd rfl (other span id use)
      | member span object name => exact absurd rfl (other' span object name)
      | _ => rfl

/-- What is looked at lies below the expression. -/
theorem Lies.of_lookedAt (lies : Lies branch.whole placed above) {node : NodeId}
    (looked : branch.toTree.LookedAt placed.id node) :
    ∃ lower between, Lies placed lower between ∧ lower.id = node := by
  induction looked with
  | expression => exact ⟨placed, [], .root, rfl⟩
  | object _ _ _ _ _ first ih =>
      obtain ⟨lower, between, below, rfl⟩ := ih
      have member := List.mem_of_find?_eq_some first
      rw [(below.trans lies).children_toTree] at member
      obtain ⟨⟨slot, child⟩, among, rfl⟩ := List.mem_map.mp member
      exact ⟨child, lower :: between, .child below among, rfl⟩

end Placed

/-- **Dotted names are read off chains of members, and off nothing else.** Where the tokens of a
text are handed out below a draft whose spans are nested, the node of an expression gives the dotted
name of the expression if it is a chain of members from a name on, each with its name in the source
text, and no name if it is anything else. Every member access that is looked at for it has a
child. -/
theorem Tree.dottedName?_ofExpr (text : SourceText) (form : Form) (span : Span)
    (fields : Fields) (parts : List (Slot × Draft))
    (sound : Draft.TokensAreLeaves (.node form span fields parts))
    (ordered : Token.IsStream text.tokens) (sideBySide : Draft.SideBySide parts)
    (nested : ∀ part ∈ parts, part.2.Nested text.tokens) (expr : Expr) (id : NodeId)
    (above : List NodeId)
    (places : (Branch.node form fields (Branch.ofParts parts text.tokens)).toTree.Places
      (.node form span fields parts) (.ofExpr text expr) id above)
    (lower : id ≠ (Branch.node form fields (Branch.ofParts parts text.tokens)).toTree.root) :
    let tree := (Branch.node form fields (Branch.ofParts parts text.tokens)).toTree
    (expr.Spelled text → tree.dottedName? id = expr.dotted?) ∧
      ∀ node, tree.LookedAt id node → tree.kind? node = some .qualifiedExpr →
        tree.children node ≠ [] := by
  intro tree
  have completes : Branch.Completes (.node form span fields parts)
      (.node form fields (Branch.ofParts parts text.tokens)) := .node ..
  have leaves := completes.tokensAreLeaves sound
  have top := Placed.Filled.of_sideBySide ordered sideBySide nested
    (show (Branch.node form fields (Branch.ofParts parts text.tokens)).whole.branch = _ from rfl)
      span
  obtain ⟨placed, outer, window, lies, rfl, rfl, filled, bounds, -⟩ :=
    places.exists_filled ordered leaves top
  have inside : outer ≠ [] := by
    rintro rfl
    cases lies
    exact lower (Branch.root_toTree _).symm
  constructor
  · intro spelled
    rcases bounds with ⟨none, -⟩ | ⟨rfl, -⟩
    · exact absurd (List.map_eq_nil_iff.mp none) inside
    · rw [Tree.dottedName?, filled.dottedPartsTo_toTree ordered spelled lies leaves
        (Nat.lt_succ_self _), Option.map_map]
      exact congrArg (Option.map · _) (funext fun names => by simp)
  · intro node looked kind none
    obtain ⟨below, between, deep, rfl⟩ := lies.of_lookedAt looked
    have all := deep.trans lies
    have tokens := all.leaves_ne_nil ordered leaves top
      (List.append_ne_nil_of_right_ne_nil _ inside)
    have inner : below.isLeaf = false := by
      refine Bool.eq_false_iff.mpr fun leaf => ?_
      obtain ⟨token, own⟩ := Placed.form_of_isLeaf leaf
      rw [Tree.kind?, all.form?_toTree, own] at kind
      cases kind
    rw [all.children_toTree, List.map_eq_nil_iff] at none
    rw [Placed.leaves_of_not_isLeaf inner, none] at tokens
    exact tokens rfl

/-- A chain of members whose object is parenthesised and goes on over a line end. -/
def chainSource : List Char :=
  "(a
.b).c
".toList

/-- `chainSource` with its tokens. -/
def chainText : SourceText := .lexOrEmpty chainSource

/-- The expression of `chainSource`. -/
def chainExpr : Expr :=
  .member ⟨⟨1, 0⟩, ⟨2, 5⟩⟩
    (.member ⟨⟨1, 1⟩, ⟨2, 2⟩⟩ (.name ⟨⟨1, 1⟩, ⟨1, 2⟩⟩ "a" .load) "b") "c"

/-- The program of `chainSource`. -/
def chainProgram : Program := ⟨[.simple ⟨⟨1, 0⟩, ⟨2, 5⟩⟩ .expression [chainExpr]]⟩

theorem spelled_chainExpr : chainExpr.Spelled chainText := by
  refine ⟨⟨⟨.name, "c", ⟨2, 4⟩, ⟨2, 5⟩, 6, []⟩, rfl, rfl, ?_, ?_⟩,
    ⟨⟨.name, "b", ⟨2, 1⟩, ⟨2, 2⟩, 3, []⟩, rfl, rfl, ?_, ?_⟩, trivial⟩
  all_goals decide +kernel

/-- The spans of a statement that is the chain, and of the expressions in it. -/
def chainSpans? : Program → Option (List Span)
  | ⟨[.simple whole .expression [.member outer (.member inner (.name own "a" .load) "b") "c"]]⟩ =>
      some [whole, outer, inner, own]
  | _ => none

theorem read_chainSource : Program.read chainSource = .ok chainProgram := by
  obtain ⟨program, read, spans⟩ := Lists.exists_of_toOption_map
    (show (Program.read chainSource).toOption.map chainSpans? = some (chainSpans? chainProgram) by
      decide +kernel)
  rw [read]
  rw [chainSpans?.eq_def] at spans
  split at spans
  · cases spans
    rfl
  · cases spans

/-- The chain is the only part of the only statement. -/
theorem Tree.places_chainExpr :
    let tree := (Branch.ofProgram chainProgram chainText).toTree
    tree.Places (.ofProgram chainProgram chainText) (.ofExpr chainText chainExpr) 9
      [10, tree.root] := by
  intro tree
  have statements : ((tree.children tree.root).filter fun child => !tree.isToken child) = [10] := by
    decide +kernel
  have expressions : ((tree.children 10).filter fun child => !tree.isToken child) = [9] := by
    decide +kernel
  have statement : tree.Places (.ofProgram chainProgram chainText)
      (.ofStmt chainText (.simple ⟨⟨1, 0⟩, ⟨2, 5⟩⟩ .expression [chainExpr])) 10 [tree.root] := by
    apply Tree.Places.part Tree.Places.root
    rw [statements]
    exact List.mem_cons_self
  apply Tree.Places.part statement
  rw [expressions]
  exact List.mem_cons_self

/-- The tree of `chainSource` spells the chain without the parentheses and the line end. -/
theorem Tree.dottedName?_chainExpr :
    Program.read chainSource = .ok chainProgram ∧ chainExpr.Spelled chainText ∧
    ∃ id above, (Branch.ofProgram chainProgram chainText).toTree.Places
        (.ofProgram chainProgram chainText) (.ofExpr chainText chainExpr) id above ∧
      (Branch.ofProgram chainProgram chainText).toTree.dottedName? id = some "a.b.c" := by
  have ordered : Token.IsStream chainText.tokens := ⟨by decide +kernel, by decide +kernel⟩
  have sideBySide : Draft.SideBySide (Draft.ofProgram chainProgram chainText).parts :=
    ⟨by decide +kernel, by decide +kernel⟩
  have nested : ∀ part ∈ (Draft.ofProgram chainProgram chainText).parts,
      part.2.Nested chainText.tokens :=
    Draft.nested_of_nestsAll _ (by decide +kernel)
  have sound := (Draft.shaped_ofProgram chainProgram chainText).tokensAreLeaves
  have read := (Tree.dottedName?_ofExpr chainText _ _ _ _ sound ordered sideBySide nested chainExpr
    9 _ Tree.places_chainExpr (by decide +kernel)).1 spelled_chainExpr
  exact ⟨read_chainSource, spelled_chainExpr, 9, _, Tree.places_chainExpr, read⟩

end StructuralLint
