import Mathlib.Logic.Relation
import StructuralLint.Proofs.Tree.Lossless
import StructuralLint.Proofs.Tree.Preorder

/-!
# Walks and ancestors

Every walk keeps a stack of its own, and each is a way through the one structural traversal
`Tree.walk`: what is collected is a filter of it (`Tree.Descending.descendants_eq`), a search that
takes the last children first finds what it would find there (`Tree.Descending.hasDescendant_eq`),
and so do the tokens of a node (`Tree.WellFormed.tokens_eq`). Where parents and children point at
each other, the way up is the way down read backwards (`Tree.Linked.above_iff`), and a search
upwards stops at the lowest node that will do (`Tree.Linked.firstAncestor_spec`).
-/

namespace StructuralLint

namespace Tree

/-- What the table of a syntax tree satisfies: a node stands after its children, so that no way down
goes on for ever, and tokens are the leaves. -/
structure WellFormed (tree : Tree) : Prop where
  descending : tree.Descending
  leaf : ∀ id, tree.isToken id = true → tree.children id = []

/-- Parents and children point at each other. -/
structure Linked (tree : Tree) : Prop where
  back : ∀ id, ∀ child ∈ tree.children id, tree.parent? child = some id
  listed : ∀ id parent, tree.parent? id = some parent → id ∈ tree.children parent

/-- The upper node is the parent of the lower one, or the parent of its parent, and so on. -/
def Above (tree : Tree) (upper lower : NodeId) : Prop :=
  Relation.TransGen (fun id parent => tree.parent? id = some parent) lower upper

/-- The upper node is the lowest above the other one that satisfies the predicate: all others that
do are above it. -/
structure IsLowest (tree : Tree) (satisfies : NodeId → Bool) (upper lower : NodeId) : Prop where
  above : tree.Above upper lower
  holds : satisfies upper = true
  lowest : ∀ other, tree.Above other lower → satisfies other = true →
    other = upper ∨ tree.Above other upper

variable {tree : Tree} {id parent upper lower : NodeId} {satisfies : NodeId → Bool}

/-! ### Downward -/

namespace Descending

variable (descending : tree.Descending)
include descending

theorem sum_weight_children_le (id : NodeId) :
    ((tree.children id).map tree.weight).sum ≤ tree.weight id := by
  rw [descending.weight_eq]
  exact Nat.le_succ _

/-- What a node has below it, collected. -/
theorem descendants_eq (id : NodeId) (satisfies : NodeId → Bool) :
    tree.descendants id satisfies = ((tree.children id).flatMap tree.walk).filter satisfies := by
  rw [descendants, collect_eq_filter_visit,
    descending.visit_eq _ _ (descending.sum_weight_children_le id)]

/-- The order in which a search takes the nodes of its stack makes no difference to the outcome. -/
theorem search_eq (fuel : Nat) (stack : List NodeId) (enough : (stack.map tree.weight).sum ≤ fuel) :
    tree.search satisfies fuel stack = stack.any fun id => (tree.walk id).any satisfies := by
  induction fuel generalizing stack with
  | zero =>
      cases stack with
      | nil => rfl
      | cons id stack =>
          rw [List.map_cons, List.sum_cons, descending.weight_eq] at enough
          omega
  | succ fuel ih =>
      cases stack with
      | nil => rfl
      | cons id stack =>
          rw [List.map_cons, List.sum_cons, descending.weight_eq] at enough
          have rest := ih ((tree.children id).reverse ++ stack) (by
            rw [List.map_append, List.sum_append, List.map_reverse, List.sum_reverse]
            omega)
          rw [search, rest, List.any_append, List.any_reverse, List.any_cons, descending.walk_eq,
            List.any_cons, List.any_flatMap, Bool.or_assoc]

theorem hasDescendant_eq (id : NodeId) (satisfies : NodeId → Bool) :
    tree.hasDescendant id satisfies = ((tree.children id).flatMap tree.walk).any satisfies := by
  have enough : ((tree.children id).reverse.map tree.weight).sum ≤ tree.weight id := by
    rw [List.map_reverse, List.sum_reverse]
    exact descending.sum_weight_children_le id
  rw [hasDescendant, descending.search_eq _ _ enough, List.any_reverse, List.any_flatMap]

end Descending

/-- Gathering tokens is a walk that keeps them: there is nothing below a token to pass by. -/
theorem gather_eq_filter_visit (leaf : ∀ id, tree.isToken id = true → tree.children id = [])
    (fuel : Nat) (stack : List NodeId) :
    tree.gather fuel stack = (tree.visit fuel stack).filter tree.isToken := by
  induction fuel generalizing stack with
  | zero => rfl
  | succ fuel ih =>
      cases stack with
      | nil => rfl
      | cons id stack =>
          rw [gather, visit, List.filter_cons]
          by_cases token : tree.isToken id = true
          · rw [if_pos token, if_pos token, leaf id token, List.nil_append, ih]
          · rw [if_neg token, if_neg token, ih]

namespace WellFormed

variable (wellFormed : tree.WellFormed)
include wellFormed

theorem tokens_eq (id : NodeId) : tree.tokens id = (tree.walk id).filter tree.isToken := by
  rw [tokens, wellFormed.descending.walk_eq, List.filter_cons]
  by_cases token : tree.isToken id = true
  · rw [if_pos token, if_pos token, wellFormed.leaf id token]
    rfl
  · have enough := wellFormed.descending.sum_weight_children_le id
    rw [if_neg token, if_neg token, gather_eq_filter_visit wellFormed.leaf,
      wellFormed.descending.visit_eq _ _ enough]

/-- The tokens of a node are those of its children side by side. -/
theorem tokens_eq_flatMap (inner : tree.isToken id = false) :
    tree.tokens id = (tree.children id).flatMap tree.tokens := by
  have each : tree.tokens = fun id => (tree.walk id).filter tree.isToken :=
    funext wellFormed.tokens_eq
  rw [each]
  dsimp only
  rw [wellFormed.descending.walk_eq, List.filter_cons, inner, List.filter_flatMap]
  rfl

end WellFormed

/-! ### Upward -/

/-- What is above a node is its parent or above its parent. -/
theorem above_iff_of_parent (found : tree.parent? id = some parent) :
    tree.Above upper id ↔ upper = parent ∨ tree.Above upper parent := by
  constructor
  · intro above
    obtain ⟨next, step, rest⟩ := Relation.TransGen.head'_iff.mp above
    obtain rfl := Option.some.inj (found.symm.trans step)
    exact (Relation.reflTransGen_iff_eq_or_transGen.mp rest)
  · intro either
    rcases either with rfl | above
    · exact .single found
    · exact .head found above

theorem not_above_of_none (none : tree.parent? id = none) : ¬ tree.Above upper id := by
  intro above
  obtain ⟨next, step, -⟩ := Relation.TransGen.head'_iff.mp above
  rw [none] at step
  cases step

/-- Every node of a walk is reached through children. -/
theorem Descending.mem_walk_iff (descending : tree.Descending) :
    lower ∈ tree.walk upper ↔
      Relation.ReflTransGen (fun id child => child ∈ tree.children id) upper lower := by
  constructor
  · intro member
    induction upper using Nat.strong_induction_on with
    | h upper ih =>
        rw [descending.walk_eq, List.mem_cons, List.mem_flatMap] at member
        rcases member with rfl | ⟨child, among, inside⟩
        · exact .refl
        · exact .head among (ih child (descending upper child among) inside)
  · intro reached
    induction reached using Relation.ReflTransGen.head_induction_on with
    | refl =>
        rw [descending.walk_eq]
        exact List.mem_cons_self
    | head among _ ih =>
        rw [descending.walk_eq]
        exact List.mem_cons_of_mem _ (List.mem_flatMap.mpr ⟨_, among, ih⟩)

namespace Linked

variable (linked : tree.Linked)
include linked

theorem parent?_eq_some_iff : tree.parent? id = some parent ↔ id ∈ tree.children parent :=
  ⟨linked.listed id parent, linked.back parent id⟩

/-- **Above and below are the same.** -/
theorem above_iff (descending : tree.Descending) :
    tree.Above upper lower ↔ lower ∈ tree.descendants upper fun _ => true := by
  have swapped : tree.Above upper lower ↔
      Relation.TransGen (fun id child => child ∈ tree.children id) upper lower := by
    unfold Above
    rw [← Relation.transGen_swap]
    simp only [linked.parent?_eq_some_iff]
  rw [swapped, Relation.TransGen.head'_iff, descending.descendants_eq, List.filter_true,
    List.mem_flatMap]
  simp only [descending.mem_walk_iff]

theorem lt_of_parent {id parent : Nat} (descending : tree.Descending)
    (found : tree.parent? id = some parent) : id < parent ∧ parent < tree.nodes.size := by
  have member := linked.listed id parent found
  refine ⟨descending parent id member, ?_⟩
  by_contra outside
  rw [children, Array.getElem?_eq_none (Nat.le_of_not_lt outside)] at member
  cases member

theorem lt_of_above {upper lower : Nat} (descending : tree.Descending)
    (above : tree.Above upper lower) : lower < upper := by
  induction above with
  | single found => exact (linked.lt_of_parent descending found).1
  | tail _ found ih => exact ih.trans (linked.lt_of_parent descending found).1

/-- Steps that are left over at the top make no difference. The numbers grow on the way up, so there
are enough steps if there is one for each number from here on. -/
theorem climb_eq_climb (descending : tree.Descending) (fuel fuel' : Nat) (current : Option NodeId)
    (enough : ∀ id : Nat, current = some id →
      id < tree.nodes.size ∧ tree.nodes.size ≤ id + fuel ∧ tree.nodes.size ≤ id + fuel') :
    tree.climb satisfies fuel current = tree.climb satisfies fuel' current := by
  induction fuel generalizing fuel' current with
  | zero =>
      cases current with
      | none => cases fuel' <;> rfl
      | some id =>
          have bounds := enough id rfl
          omega
  | succ fuel ih =>
      cases current with
      | none => cases fuel' <;> rfl
      | some id =>
          have bounds := enough id rfl
          obtain ⟨fuel', rfl⟩ : ∃ less, fuel' = less + 1 := ⟨fuel' - 1, by omega⟩
          have rest := ih fuel' (tree.parent? id) fun parent found => by
            have further := linked.lt_of_parent descending found
            omega
          rw [climb, climb, rest]

/-- A search upwards looks at the parent and goes on from there. -/
theorem firstAncestor_eq (descending : tree.Descending) (found : tree.parent? id = some parent) :
    tree.firstAncestor id satisfies =
      if satisfies parent then some parent else tree.firstAncestor parent satisfies := by
  have inside := linked.lt_of_parent descending found
  obtain ⟨fuel, size⟩ : ∃ fuel, tree.nodes.size = fuel + 1 := ⟨tree.nodes.size - 1, by omega⟩
  have rest : tree.climb satisfies fuel (tree.parent? parent) =
      tree.climb satisfies tree.nodes.size (tree.parent? parent) :=
    linked.climb_eq_climb descending _ _ _ fun next above => by
      have further := linked.lt_of_parent descending above
      omega
  rw [firstAncestor, firstAncestor, found, ← rest, size, climb]

/-- **A search upwards stops at the lowest node that satisfies the predicate.** -/
theorem firstAncestor_spec (descending : tree.Descending) (lower : NodeId)
    (satisfies : NodeId → Bool) :
    match tree.firstAncestor lower satisfies with
    | some upper => tree.IsLowest satisfies upper lower
    | none => ∀ upper, tree.Above upper lower → satisfies upper = false := by
  -- the induction is on the way to the top, along which the numbers grow
  induction left : tree.nodes.size - lower using Nat.strong_induction_on generalizing lower with
  | h distance ih =>
      cases found : tree.parent? lower with
      | none =>
          have stop : tree.firstAncestor lower satisfies = none := by
            rw [firstAncestor, found]
            cases tree.nodes.size <;> rfl
          rw [stop]
          exact fun upper above => absurd above (not_above_of_none found)
      | some parent =>
          have further := linked.lt_of_parent descending found
          have above (upper : NodeId) :
              tree.Above upper lower ↔ upper = parent ∨ tree.Above upper parent :=
            above_iff_of_parent found
          rw [linked.firstAncestor_eq descending found]
          by_cases holds : satisfies parent = true
          · rw [if_pos holds]
            exact ⟨.single found, holds, fun other higher _ => (above other).mp higher⟩
          · rw [if_neg holds]
            have nearer : tree.nodes.size - parent < distance := by omega
            have rest := ih _ nearer parent rfl
            revert rest
            split
            · intro rest
              refine ⟨(above _).mpr (.inr rest.above), rest.holds, fun other higher passes => ?_⟩
              rcases (above other).mp higher with rfl | higher
              · exact absurd passes holds
              · exact rest.lowest other higher passes
            · intro rest upper higher
              rcases (above upper).mp higher with rfl | higher
              · exact Bool.eq_false_of_not_eq_true holds
              · exact rest upper higher

theorem firstAncestor_eq_some_iff (descending : tree.Descending) :
    tree.firstAncestor lower satisfies = some upper ↔ tree.IsLowest satisfies upper lower := by
  have spec := linked.firstAncestor_spec descending lower satisfies
  constructor
  · intro found
    rw [found] at spec
    exact spec
  · intro lowest
    cases found : tree.firstAncestor lower satisfies with
    | none =>
        rw [found] at spec
        exact absurd lowest.holds (Bool.eq_false_iff.mp (spec upper lowest.above))
    | some other =>
        rw [found] at spec
        -- of two nodes each of which is lowest, neither is above the other
        rcases lowest.lowest other spec.above spec.holds with same | higher
        · rw [same]
        · rcases spec.lowest upper lowest.above lowest.holds with same | lower
          · rw [same]
          · have left := linked.lt_of_above descending higher
            have right := linked.lt_of_above descending lower
            omega

theorem firstAncestor_eq_none_iff (descending : tree.Descending) :
    tree.firstAncestor lower satisfies = none ↔
      ∀ upper, tree.Above upper lower → satisfies upper = false := by
  have spec := linked.firstAncestor_spec descending lower satisfies
  constructor
  · intro found
    rw [found] at spec
    exact spec
  · intro silent
    cases found : tree.firstAncestor lower satisfies with
    | none => rfl
    | some upper =>
        rw [found] at spec
        exact absurd spec.holds (Bool.eq_false_iff.mp (silent upper spec.above))

end Linked

end Tree

/-! ### Trees of source texts -/

namespace Branch

variable {branch : Branch}

theorem wellFormed_toTree (sound : branch.TokensAreLeaves) : branch.toTree.WellFormed where
  descending := by
    intro id child member
    obtain ⟨parent, above, slot, lower, -, rfl, among, rfl⟩ := mem_children_toTree.mp member
    exact Placed.id_child_lt among
  leaf := by
    intro id token
    cases found : branch.toTree.form? id with
    | none =>
        rw [Tree.isToken, Tree.token?, found] at token
        cases token
    | some form =>
        obtain ⟨placed, above, lies, rfl, -⟩ := Tree.exists_lies_of_form? found
        rw [lies.isToken_toTree sound] at token
        rw [lies.children_toTree, Placed.children_of_isLeaf token, List.map_nil]

theorem linked_toTree : branch.toTree.Linked where
  back := by
    intro id child member
    obtain ⟨parent, above, slot, lower, lies, rfl, among, rfl⟩ := mem_children_toTree.mp member
    exact (Placed.Lies.child lies among).parent?_toTree
  listed := by
    intro id parent found
    by_cases inside : id < branch.size
    · obtain ⟨placed, above, lies, rfl⟩ := exists_lies branch inside
      rw [lies.parent?_toTree] at found
      cases lies with
      | root => cases found
      | child upper among =>
          cases found
          exact mem_children_toTree.mpr ⟨_, _, _, _, upper, rfl, among, rfl⟩
    · have unlisted : id ∉ (branch.whole.table branch.tokenNumber).flatMap (·.children) := by
        intro listed
        have numbered := (branch.whole.listed_perm branch.tokenNumber).mem_iff.mp
          (List.mem_append_left _ listed)
        exact inside (by simpa [whole] using (List.mem_range'_1.mp numbered).2)
      have orphan : branch.toTree.parent? id = none := Tree.parentTable_of_not_mem unlisted
      rw [orphan] at found
      cases found

end Branch

/-- **The walks of a tree.** Whatever its stack holds and whichever end it takes from, each walk is
a way through the structural traversal: a node, and then what its children give, in order. In a tree
whose parents and children point at each other, upwards and downwards lead to the same nodes, and a
search upwards stops at the lowest node that satisfies the predicate. Every tree that is parsed from
a source text is such a tree. -/
theorem Tree.traversal :
    (∀ tree : Tree, tree.WellFormed →
      (∀ id, tree.walk id = id :: (tree.children id).flatMap tree.walk) ∧
      (∀ id satisfies, tree.descendants id satisfies = (tree.walk id).tail.filter satisfies) ∧
      (∀ id satisfies,
        tree.hasDescendant id satisfies = true ↔ tree.descendants id satisfies ≠ []) ∧
      (∀ id, tree.tokens id = (tree.walk id).filter tree.isToken) ∧
      (∀ id, tree.isToken id = false → tree.tokens id = (tree.children id).flatMap tree.tokens) ∧
      (tree.Linked →
        (∀ upper lower, tree.Above upper lower ↔ lower ∈ tree.descendants upper fun _ => true) ∧
        (∀ lower upper satisfies,
          tree.firstAncestor lower satisfies = some upper ↔ tree.IsLowest satisfies upper lower) ∧
        ∀ lower satisfies, tree.firstAncestor lower satisfies = none ↔
          ∀ upper, tree.Above upper lower → satisfies upper = false)) ∧
    ∀ (source : List Char) (withSymbols : Bool) (parsed : ParsedSource),
      parse source withSymbols = .ok parsed → parsed.tree.WellFormed ∧ parsed.tree.Linked := by
  constructor
  · intro tree wellFormed
    have descending := wellFormed.descending
    refine ⟨descending.walk_eq, fun id satisfies => ?_, fun id satisfies => ?_,
      wellFormed.tokens_eq, fun id inner => wellFormed.tokens_eq_flatMap inner, fun linked =>
        ⟨fun upper lower => linked.above_iff descending,
          fun lower upper satisfies => linked.firstAncestor_eq_some_iff descending,
          fun lower satisfies => linked.firstAncestor_eq_none_iff descending⟩⟩
    · rw [descending.descendants_eq, descending.walk_eq, List.tail_cons]
    · rw [descending.hasDescendant_eq, descending.descendants_eq, List.any_eq_true, ne_eq,
        List.filter_eq_nil_iff]
      simp only [not_forall, not_not, exists_prop]
  · intro source withSymbols parsed read
    obtain ⟨program, tokens, -, same, -⟩ := exists_program_of_parse read
    rw [same]
    exact ⟨Branch.wellFormed_toTree (Branch.tokensAreLeaves_ofProgram program _),
      Branch.linked_toTree⟩

/-- The line `a.b`: a file that holds an expression and the end of the line. -/
def dottedLine : Branch :=
  .node (.file none) .empty
    [(some ⟨none, 0⟩, .node (.plain .qualifiedExpr) .empty
        [(some ⟨none, 0⟩,
            .node (.name "a" false) .empty [(none, .leaf ⟨.name, "a", ⟨1, 0⟩, ⟨1, 1⟩, 0, []⟩)]),
          (none, .leaf ⟨.op, ".", ⟨1, 1⟩, ⟨1, 2⟩, 1, []⟩),
          (none, .leaf ⟨.name, "b", ⟨1, 2⟩, ⟨1, 3⟩, 2, []⟩)]),
      (none, .leaf ⟨.newline, "\n", ⟨1, 3⟩, ⟨1, 4⟩, 3, []⟩)]

theorem tokensAreLeaves_dottedLine : dottedLine.TokensAreLeaves := by
  have name : Branch.TokensAreLeaves (.node (.name "a" false) .empty
      [(none, .leaf ⟨.name, "a", ⟨1, 0⟩, ⟨1, 1⟩, 0, []⟩)]) :=
    .node (by simp) (List.forall_mem_singleton.mpr (.leaf _))
  refine .node (by simp) (List.forall_mem_cons.mpr ⟨?_, List.forall_mem_singleton.mpr (.leaf _)⟩)
  exact .node (by simp) (List.forall_mem_cons.mpr ⟨name, List.forall_mem_cons.mpr
    ⟨.leaf _, List.forall_mem_singleton.mpr (.leaf _)⟩⟩)

/-- The walks of the line. From the first token upwards the expression is the lowest node that is no
name. -/
theorem Tree.traversal_dottedLine :
    let tree := dottedLine.toTree
    let isName := tree.isKind [.name]
    (tree.WellFormed ∧ tree.Linked ∧
      tree.walk 6 = 6 :: (tree.walk 4 ++ tree.walk 5) ∧
      tree.descendants 6 isName = [1] ∧ tree.hasDescendant 6 isName = true ∧
      tree.isToken 4 = false ∧ tree.tokens 4 = [0, 2, 3] ∧
      tree.Above 4 0 ∧ ¬ tree.Above 4 5 ∧
      tree.IsLowest (fun id => !isName id) 4 0) ∧
    ∃ parsed, parse "a.b".toList true = .ok parsed ∧ parsed.tree.WellFormed ∧
      parsed.tree.Linked := by
  intro tree isName
  have wellFormed : tree.WellFormed := Branch.wellFormed_toTree tokensAreLeaves_dottedLine
  have linked : tree.Linked := Branch.linked_toTree
  obtain ⟨walks, below, found, -, tokens, upward⟩ := Tree.traversal.1 tree wellFormed
  obtain ⟨above, lowest, -⟩ := upward linked
  obtain ⟨parsed, read⟩ := exists_parsed_of_isOk
    (show (parse "a.b".toList true).isOk = true by decide +kernel)
  have names : tree.descendants 6 isName = [1] := by
    rw [below]
    decide +kernel
  have inner : tree.isToken 4 = false := by decide +kernel
  refine ⟨⟨wellFormed, linked, walks 6, names, (found 6 isName).mpr (by simp [names]), inner, ?_,
    (above 4 0).mpr ?_, fun higher => ?_, (lowest 0 4 _).mp ?_⟩, parsed, read,
      Tree.traversal.2 _ _ _ read⟩
  · rw [tokens 4 inner]
    decide +kernel
  · decide +kernel
  · exact absurd ((above 4 5).mp higher) (by decide +kernel)
  · decide +kernel

end StructuralLint
